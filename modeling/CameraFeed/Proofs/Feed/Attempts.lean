import CameraFeed.Proofs.Feed.Steps

/-! # Attempts — the deliveries of a task, attempt by attempt

  A client can refuse a connection, or open one on which messages arrive until it fails, ends or
  stays silent. `told` lists the messages that a task sends about an attempt.
  `deliveries_of_attempts` says that a task sends no other, however often it connects: at any time
  its deliveries are a prefix of the messages about its attempts, one attempt after another. The
  task stops only at a connection that stays open. -/

namespace CameraFeed.Push

/-! ### What arrives -/

/-- The message that arrives, unless the connection fails instead. -/
def Arrival.message? : Arrival → Option Message
  | .message m => some m
  | .failure _ => none

namespace Connection

/-- The messages up to the first failure. -/
def messages (c : Connection) : List Message :=
  (c.arrivals.takeWhile fun a => a.message?.isSome).filterMap Arrival.message?

/-- The connection fails. -/
def fails (c : Connection) : Bool := c.arrivals.any fun a => a.message?.isNone

/-- The events of the messages up to the first failure. -/
def events (c : Connection) : List DeviceEvent := c.messages.filterMap Message.event?

end Connection

end CameraFeed.Push

namespace CameraFeed.Feed

open Push (Arrival Attempt Client Connection)

/-! ### The messages about an attempt -/

/-- The state that a task sends when a connection ends, unless it stays open. -/
def outcome? (c : Connection) : Option ConnectionState :=
  if c.fails then some .errored else if c.ends then some .closed else none

/-- The messages about a connection after the state `opened`. -/
def toldOf (c : Connection) : List FeedMessage :=
  c.events.map .event ++ (outcome? c).toList.map .state

/-- The messages about an attempt. -/
def told : Attempt → List FeedMessage
  | .refused _ => [.state .connecting, .state .errored]
  | .opened c => .state .connecting :: .state .opened :: toldOf c

/-- The attempt gives a connection that stays open. -/
def held : Attempt → Bool
  | .refused _ => false
  | .opened c => (outcome? c).isNone

/-- The attempts that are made: all up to the first one whose connection stays open. After a script
a connection always does. -/
def attemptsOf : List Attempt → List Attempt
  | [] => [.opened .silent]
  | a :: script => if held a then [a] else a :: attemptsOf script

theorem attemptsOf_prefix (script : List Attempt) :
    attemptsOf script <+: script ++ [.opened .silent] := by
  induction script with
  | nil => exact List.prefix_rfl
  | cons a script ih =>
    rw [attemptsOf, List.cons_append]
    by_cases ha : held a
    · rw [if_pos ha]
      exact List.cons_prefix_cons.mpr ⟨rfl, List.nil_prefix⟩
    · rw [if_neg ha]
      exact List.cons_prefix_cons.mpr ⟨rfl, ih⟩

/-! ### Runs of a task -/

/-- `Maintained start client ds t c`: with a receiver for its deliveries, a run of the task from
`start` and `client` leads to `t` and `c` and sends the deliveries `ds`. -/
inductive Maintained (start : Task) (client : Client) : List Delivery → Task → Client → Prop where
  | start : Maintained start client [] start client
  /-- It sends the message that it offers. -/
  | tell {ds : List Delivery} {t : Task} {c : Client} {m : FeedMessage}
      (h : Maintained start client ds t c) (hoffer : t.offer? = some m) :
      Maintained start client (ds ++ [⟨t.generation, m⟩]) (t.tell true) c
  /-- It deals with its client. -/
  | proceed {ds : List Delivery} {t t' : Task} {c c' : Client}
      (h : Maintained start client ds t c) (hproceed : t.proceed c = some (t', c')) :
      Maintained start client ds t' c'
  /-- Its wait is over. -/
  | wake {ds : List Delivery} {t t' : Task} {c : Client}
      (h : Maintained start client ds t c) (hwake : t.wake? = some t') :
      Maintained start client ds t' c

/-! ### The messages to come -/

/-- The messages about the attempts of a script. -/
def toldFrom (script : List Attempt) : List FeedMessage := (attemptsOf script).flatMap told

/-- The messages after a connection with the given outcome. -/
def toldAfter (outcome : Option ConnectionState) (script : List Attempt) : List FeedMessage :=
  match outcome with
  | some s => .state s :: toldFrom script
  | none => []

/-- The messages that a task sends from a stage on, with the attempts that are left in the script.
-/
def toTell (script : List Attempt) : Stage → List FeedMessage
  | .announcing | .waiting _ => toldFrom script
  -- The state `connecting` is sent already.
  | .connecting => (toldFrom script).tail
  | .opening c => .state .opened :: (c.events.map .event ++ toldAfter (outcome? c) script)
  | .reading c => c.events.map .event ++ toldAfter (outcome? c) script
  | .passing e c => .event e :: (c.events.map .event ++ toldAfter (outcome? c) script)
  | .ending s => .state s :: toldFrom script
  | .finished => []

/-- The next attempt comes first, and nothing comes after one that is held. -/
theorem toldFrom_cons (a : Attempt) (script : List Attempt) :
    toldFrom (a :: script) = .state .connecting :: match a with
      | .refused _ => .state .errored :: toldFrom script
      | .opened c => .state .opened :: (c.events.map .event ++ toldAfter (outcome? c) script) := by
  rw [toldFrom, attemptsOf]
  cases a with
  | refused fault => rfl
  | opened c =>
    cases houtcome : outcome? c with
    -- A connection that stays open is the last one.
    | none => simp [held, houtcome, told, toldOf, toldAfter]
    | some s => simp [held, houtcome, told, toldOf, toldAfter, toldFrom]

/-! ### Arrivals -/

theorem outcome?_failure (fault : Push.Fault) (arrivals : List Arrival) (ends : Bool) :
    outcome? ⟨.failure fault :: arrivals, ends⟩ = some .errored := rfl

theorem outcome?_message (m : Push.Message) (arrivals : List Arrival) (ends : Bool) :
    outcome? ⟨.message m :: arrivals, ends⟩ = outcome? ⟨arrivals, ends⟩ := rfl

theorem events_failure (fault : Push.Fault) (arrivals : List Arrival) (ends : Bool) :
    Connection.events ⟨.failure fault :: arrivals, ends⟩ = [] := rfl

theorem events_message (m : Push.Message) (arrivals : List Arrival) (ends : Bool) :
    Connection.events ⟨.message m :: arrivals, ends⟩
      = m.event?.toList ++ Connection.events ⟨arrivals, ends⟩ := by
  simp only [Connection.events, Connection.messages, List.takeWhile_cons, Arrival.message?,
    Option.isSome_some, if_true, List.filterMap_cons]
  cases m.event? <;> rfl

/-- A message that arrives first adds its event, if it has one. -/
theorem toTell_message (m : Push.Message) (arrivals : List Arrival) (ends : Bool)
    (script : List Attempt) : toTell script (.reading ⟨.message m :: arrivals, ends⟩)
      = m.event?.toList.map .event ++ toTell script (.reading ⟨arrivals, ends⟩) := by
  simp only [toTell, outcome?_message, events_message, List.map_append, List.append_assoc]

/-- An arrival changes the stage, and keeps the messages to come. -/
theorem toTell_arrives {c : Connection} {stage : Stage} (h : Arrives c stage)
    (script : List Attempt) : toTell script stage = toTell script (.reading c) := by
  obtain ⟨arrivals, ends⟩ := c
  cases h with
  | ended harrivals hends =>
    obtain rfl : arrivals = [] := harrivals
    obtain rfl : ends = true := hends
    rfl
  | @failed fault rest harrivals =>
    obtain rfl : arrivals = .failure fault :: rest := harrivals
    rw [toTell, toTell, outcome?_failure, events_failure]
    rfl
  | @event m e rest harrivals hevent =>
    obtain rfl : arrivals = .message m :: rest := harrivals
    rw [toTell_message, hevent]
    rfl
  | @noEvent m rest harrivals hevent =>
    obtain rfl : arrivals = .message m :: rest := harrivals
    rw [toTell_message, hevent]
    rfl

/-! ### Steps -/

/-- The message that a task sends is the first of the messages to come. -/
theorem toTell_tells {t t' : Task} {m : FeedMessage} (h : Tells t m t') (script : List Attempt) :
    toTell script t.stage = m :: toTell script t'.stage := by
  cases h with
  | announced hstage =>
    rw [hstage]
    -- Every script has a next attempt, and each attempt is announced.
    cases script with
    | nil => rfl
    | cons a script => rw [toTell, toTell, toldFrom_cons, List.tail_cons]
  | opened hstage | passed hstage | ended hstage =>
    rw [hstage]
    rfl

/-- A step with the client keeps the messages to come. -/
theorem toTell_proceeds {t t' : Task} {c c' : Client} (h : Proceeds t c t' c') :
    toTell c'.script t'.stage = toTell c.script t.stage := by
  obtain ⟨script, asked⟩ := c
  cases h with
  | read hstage harrives =>
    rw [hstage]
    exact toTell_arrives harrives script
  | @refused fault hstage hconnect =>
    rw [hstage]
    cases script with
    -- After the script nothing is refused.
    | nil => cases hconnect
    | cons a script =>
      obtain rfl : a = .refused fault := hconnect
      rw [toTell, toTell, toldFrom_cons, List.tail_cons]
      rfl
  | @opened connection hstage hconnect =>
    rw [hstage]
    cases script with
    -- After the script the connection is silent, as in `toldFrom`.
    | nil =>
      cases hconnect
      rfl
    | cons a script =>
      obtain rfl : a = .opened connection := hconnect
      rw [toTell, toTell, toldFrom_cons, List.tail_cons]
      rfl

/-- A task that can take no step reads a connection that stays open. -/
theorem stage_of_stuck {t : Task} {c : Client} (hne : t.stage ≠ .finished)
    (hoffer : t.offer? = none) (hproceed : t.proceed c = none) (hwake : t.wake? = none) :
    t.stage = .reading .silent := by
  obtain ⟨filter, generation, backoff, stage⟩ := t
  cases stage with
  | finished => exact absurd rfl hne
  | announcing | opening c | passing e c | ending s => cases hoffer
  | waiting delay => cases hwake
  | connecting =>
    simp only [Task.proceed] at hproceed
    split at hproceed <;> cases hproceed
  | reading connection =>
    obtain ⟨arrivals, ends⟩ := connection
    have harrived : Task.arrived? ⟨arrivals, ends⟩ = none := by
      simpa only [Task.proceed, Option.map_eq_none_iff] using hproceed
    cases arrivals with
    | nil =>
      cases ends with
      | false => rfl
      | true => cases harrived
    | cons a arrivals =>
      cases a with
      | failure fault => cases harrived
      | message m =>
        simp only [Task.arrived?] at harrived
        split at harrived <;> cases harrived

/-! ### Runs -/

/-- The invariant of a run: the messages sent and the messages to come make up the messages about
the script, all under one generation. -/
structure Accounted (generation : Nat) (script : List Attempt) (ds : List Delivery) (t : Task)
    (c : Client) : Prop where
  generation_eq : t.generation = generation
  generations : ∀ d ∈ ds, d.generation = generation
  messages : ds.map Delivery.message ++ toTell c.script t.stage = toldFrom script
  goesOn : t.stage ≠ .finished

theorem Accounted.start (filter : Filter) (generation : Nat) (retry : Retry)
    (script : List Attempt) :
    Accounted generation script [] (.start filter generation retry) (.ofScript script) where
  generation_eq := rfl
  generations := by simp
  messages := rfl
  goesOn := by simp [Task.start]

/-- Every run keeps the invariant. -/
theorem Maintained.accounted {filter : Filter} {generation : Nat} {retry : Retry}
    {script : List Attempt} {ds : List Delivery} {t : Task} {c : Client}
    (h : Maintained (.start filter generation retry) (.ofScript script) ds t c) :
    Accounted generation script ds t c := by
  induction h with
  | start => exact Accounted.start filter generation retry script
  | @tell ds t c m _ hoffer ih =>
    have htells := Task.tells hoffer
    refine ⟨htells.generation_eq.trans ih.generation_eq, ?_, ?_, htells.goesOn⟩
    -- The new delivery has the generation of the task.
    · intro d hd
      rcases List.mem_append.mp hd with hd | hd
      · exact ih.generations d hd
      · rw [List.mem_singleton.mp hd]
        exact ih.generation_eq
    -- The message moves from those to come to those sent.
    · rw [← ih.messages, toTell_tells htells, List.map_append, List.append_assoc]
      rfl
  | proceed _ hproceed ih =>
    have hproceeds := Task.proceeds hproceed
    refine ⟨hproceeds.generation_eq.trans ih.generation_eq, ih.generations, ?_, hproceeds.goesOn⟩
    rw [toTell_proceeds hproceeds]
    exact ih.messages
  | wake _ hwake ih =>
    obtain ⟨⟨delay, hstage⟩, rfl⟩ := Task.wake?_eq_some hwake
    have hmessages := ih.messages
    rw [hstage] at hmessages
    exact ⟨ih.generation_eq, ih.generations, hmessages, by simp⟩

/-- Deliveries of one generation are their messages, marked with it. -/
theorem Accounted.deliveries {generation : Nat} {script : List Attempt} {ds : List Delivery}
    {t : Task} {c : Client} (h : Accounted generation script ds t c) :
    ds = (ds.map Delivery.message).map (Delivery.mk generation) := by
  have hmark : ∀ d ∈ ds, id d = (Delivery.mk generation ∘ Delivery.message) d := by
    intro d hd
    rw [Function.comp_apply, ← h.generations d hd, id]
  rw [List.map_map, ← List.map_congr_left hmark, List.map_id]

/-- With a receiver for its deliveries, a task sends the messages about its attempts, one attempt
after another and under its generation. It never finishes, and if it can take no step, it has sent
all messages up to a connection that stays open. -/
theorem deliveries_of_attempts (filter : Filter) (generation : Nat) (retry : Retry)
    (script : List Attempt) {ds : List Delivery} {t : Task} {c : Client}
    (h : Maintained (.start filter generation retry) (.ofScript script) ds t c) :
    ds <+: ((script ++ [Attempt.opened .silent]).flatMap told).map (Delivery.mk generation) ∧
      t.stage ≠ .finished ∧
      (t.offer? = none → t.proceed c = none → t.wake? = none → t.stage = .reading .silent ∧
        ds = ((attemptsOf script).flatMap told).map (Delivery.mk generation)) := by
  have haccounted := h.accounted
  refine ⟨?_, haccounted.goesOn, fun hoffer hproceed hwake => ?_⟩
  -- The messages sent are a prefix of those up to a connection that stays open, and these in turn
  -- are a prefix of those about all attempts.
  · rw [haccounted.deliveries]
    have htold : ds.map Delivery.message <+: toldFrom script := ⟨_, haccounted.messages⟩
    have hall : toldFrom script <+: (script ++ [Attempt.opened .silent]).flatMap told := by
      obtain ⟨more, hmore⟩ := attemptsOf_prefix script
      rw [← hmore, List.flatMap_append]
      exact List.prefix_append _ _
    exact (htold.trans hall).map _
  · have hstage := stage_of_stuck haccounted.goesOn hoffer hproceed hwake
    refine ⟨hstage, ?_⟩
    have hmessages := haccounted.messages
    rw [hstage] at hmessages
    have hnothing : toTell c.script (.reading .silent) = [] := rfl
    rw [hnothing, List.append_nil] at hmessages
    rw [haccounted.deliveries, hmessages, toldFrom]

/-- A task that reads goes on with what arrives. -/
theorem Maintained.read {start t : Task} {client c : Client} {ds : List Delivery}
    {connection : Connection} {stage : Stage} (h : Maintained start client ds t c)
    (hstage : t.stage = .reading connection) (harrived : Task.arrived? connection = some stage) :
    Maintained start client ds { t with stage := stage } c := by
  refine h.proceed ?_
  rw [Task.proceed, hstage]
  exact congrArg (Option.map _) harrived

/-- An event as it is sent. -/
def sentEvent : String :=
  "\x7b\"id\":1,\"device_uuid\":\"a\",\"code\":\"b\",\"action\":\"c\",\"index\":0,\"data\":null," ++
    "\"created_at\":\"2024-01-01T00:00:00Z\"\x7d"

/-- The event as it is read. -/
def readEvent : DeviceEvent := ⟨.number 1, "a", "b", "c", 0, .null, ⟨1704067200, 0⟩⟩

theorem event?_sentEvent : (Push.Message.text sentEvent).event? = some readEvent := by rfl

/-- An attempt is refused. The next one gives a connection that fails after one event, and before
another. -/
def failingScript : List Attempt :=
  [.refused (.webSocket (.unreachable "no route")),
    .opened ⟨[.message (.frame ": on"), .message (.text "\x7b"), .message (.text sentEvent),
      .failure (.webSocket .broken), .message (.text sentEvent)], true⟩]

/-- A run over both attempts, up to the wait after them. -/
theorem deliveries_of_failingScript :
    ∃ t c, Maintained (.start .empty 7 ⟨500, .ofMillis 30000⟩) (.ofScript failingScript)
        (Delivery.mk 7 <$> [.state .connecting, .state .errored, .state .connecting, .state .opened,
          .event readEvent, .state .errored]) t c ∧
      Delivery.mk 7 <$> [.state .connecting, .state .errored, .state .connecting, .state .opened,
          .event readEvent, .state .errored]
        <+: ((failingScript ++ [Attempt.opened .silent]).flatMap told).map (Delivery.mk 7) ∧
      t.stage ≠ .finished := by
  have hstart : Maintained (.start .empty 7 ⟨500, .ofMillis 30000⟩) (.ofScript failingScript) []
      (.start .empty 7 ⟨500, .ofMillis 30000⟩) (.ofScript failingScript) := .start
  have hrefused := ((hstart.tell rfl).proceed rfl).tell rfl
  have hopened := (((hrefused.wake rfl).tell rfl).proceed rfl).tell rfl
  have hread := (hopened.proceed rfl).proceed rfl
  have harrived : ∀ arrivals, Task.arrived? ⟨.message (.text sentEvent) :: arrivals, true⟩
      = some (.passing readEvent ⟨arrivals, true⟩) := by
    intro arrivals
    simp only [Task.arrived?, event?_sentEvent]
  have hpassed := (hread.read rfl (harrived _)).tell rfl
  have hfailed := (hpassed.proceed rfl).tell rfl
  have hdeliveries := deliveries_of_attempts _ _ _ _ hfailed
  exact ⟨_, _, hfailed, hdeliveries.1, hdeliveries.2.1⟩

end CameraFeed.Feed
