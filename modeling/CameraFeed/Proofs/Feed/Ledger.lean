import CameraFeed.Proofs.Feed.Attempts
import CameraFeed.Proofs.Feed.Tasks

/-! # Ledger — the events that the buffer holds

  The queue of a feed can hold deliveries of several subscriptions at once. A `Ledger` records a run
  beside the feed: which subscription sent each message, which messages the task of the last
  subscription read and sent, and which of them the feed took. It counts the subscriptions itself
  and does not use the generations of the feed. `Balanced` relates the two, and `buffer_of_run` says
  that the buffer always holds the events that the ledger names, with no event lost, duplicated or
  out of order. -/

namespace CameraFeed.Feed

/-! ### Ledgers -/

/-- The event of a message, if it is not a state. -/
def FeedMessage.event? : FeedMessage → Option DeviceEvent
  | .state _ => none
  | .event e => some e

/-- The message that a task reads next. -/
def Task.nextRead? (t : Task) : Option Push.Message :=
  match t.stage with
  | .reading ⟨.message m :: _, _⟩ => some m
  | _ => none

/-- The record of a run. -/
structure Ledger where
  /-- The number of subscriptions so far. -/
  subscription : Nat
  /-- The last subscription was not ended. -/
  running : Bool
  /-- The messages in the queue with the subscription of each, oldest first. -/
  queued : List (Nat × FeedMessage)
  /-- The messages that the task of the last subscription read. -/
  read : List Push.Message
  /-- The events that the task sent. -/
  sent : List DeviceEvent
  /-- Those of them that were taken. -/
  taken : List DeviceEvent
  /-- Those of them that were taken before the subscription was ended, unless the feed was ended
  since. -/
  kept : List DeviceEvent

namespace Ledger

/-- The record before the first act. -/
def empty : Ledger := ⟨0, false, [], [], [], [], []⟩

/-- The events of the last subscription that are in the queue. -/
def waiting (l : Ledger) : List DeviceEvent :=
  (l.queued.filter fun q => q.1 == l.subscription).filterMap fun q => q.2.event?

/-- The task reads an arrival, which is a message or a failure. -/
def noteRead (l : Ledger) (m : Option Push.Message) : Ledger :=
  { l with read := l.read ++ m.toList }

/-- The task sends a message. -/
def noteSent (l : Ledger) (m : FeedMessage) : Ledger :=
  { l with queued := l.queued ++ [(l.subscription, m)], sent := l.sent ++ m.event?.toList }

/-- The oldest message of the queue is taken. -/
def noteTaken (l : Ledger) : Ledger :=
  match l.queued with
  | [] => l
  | (sender, m) :: rest =>
    let l := { l with queued := rest }
    if sender = l.subscription then
      { l with
        taken := l.taken ++ m.event?.toList
        kept := if l.running then l.kept ++ m.event?.toList else l.kept }
    else l

/-- A subscription starts. -/
def noteSubscribed (l : Ledger) : Ledger := ⟨l.subscription + 1, true, l.queued, [], [], [], []⟩

/-- The subscription is ended. -/
def noteEnded (l : Ledger) : Ledger := { l with running := false }

/-- The feed is ended. -/
def noteShutdown (l : Ledger) : Ledger := { l with running := false, kept := [] }

/-- The record after an act of a feed. -/
def note (l : Ledger) (f : LiveFeed) : LiveFeed.Act → Ledger
  | .work h _ =>
    match (f.tasks.task? h).bind Task.offer? with
    | some m => l.noteSent m
    | none => l.noteRead ((f.tasks.task? h).bind Task.nextRead?)
  | .take _ => l.noteTaken
  | .subscribe | .setFilter _ | .setDevices _ | .setCodes _ | .setActions _ => l.noteSubscribed
  | .teardown => l.noteEnded
  | .shutdown => l.noteShutdown
  | .wake _ | .setAll _ | .toggleRow _ => l

end Ledger

/-- The newest events within a limit, newest first. A limit of zero is no limit. -/
def newest (limit : Option Nat) (events : List DeviceEvent) : List DeviceEvent :=
  match limit with
  | some (n + 1) => events.reverse.take (n + 1)
  | _ => events.reverse

/-! ### The event between reading and sending -/

/-- The event that a task read and did not send yet. -/
def Task.inHand? (t : Task) : Option DeviceEvent :=
  match t.stage with
  | .passing e _ => some e
  | _ => none

/-- A task sends the event that it has in hand, or no event. -/
theorem Tells.event?_eq {t t' : Task} {m : FeedMessage} (h : Tells t m t') :
    m.event? = t.inHand? := by
  cases h with
  | announced hstage | opened hstage | passed hstage | ended hstage =>
    rw [Task.inHand?, hstage]
    rfl

/-- After sending, a task has no event in hand. -/
theorem Tells.inHand?_eq {t t' : Task} {m : FeedMessage} (h : Tells t m t') :
    t'.inHand? = none := by
  cases h <;> rfl

/-- After a step with its client, a task has in hand the event that it read. -/
theorem Proceeds.inHand?_eq {t t' : Task} {c c' : Push.Client} (h : Proceeds t c t' c') :
    t'.inHand? = t.nextRead?.bind Push.Message.event? := by
  cases h with
  | refused hstage | opened hstage =>
    rw [Task.nextRead?, hstage]
    rfl
  | @read connection stage hstage harrives =>
    obtain ⟨arrivals, ends⟩ := connection
    rw [Task.nextRead?, hstage]
    cases harrives with
    | ended harrivals | failed harrivals =>
      obtain rfl := harrivals
      rfl
    | event harrivals hevent | noEvent harrivals hevent =>
      obtain rfl := harrivals
      exact hevent.symm

/-- A task that offers no message has no event in hand. -/
theorem Task.inHand?_of_offer? {t : Task} (h : t.offer? = none) : t.inHand? = none := by
  obtain ⟨filter, generation, backoff, stage⟩ := t
  cases stage with
  | passing e c => cases h
  | announcing | connecting | opening c | reading c | ending s | waiting delay | finished => rfl

/-! ### The queue -/

namespace Ledger

theorem waiting_noteSent (l : Ledger) (m : FeedMessage) :
    (l.noteSent m).waiting = l.waiting ++ m.event?.toList := by
  simp only [waiting, noteSent, List.filter_append, List.filterMap_append]
  congr 1
  simp only [List.filter_cons, beq_self_eq_true, if_true, List.filter_nil, List.filterMap_cons]
  cases m.event? <;> rfl

/-- The events that wait begin with that of the oldest message, if the last subscription sent it. -/
theorem waiting_of_own {l : Ledger} {m : FeedMessage} {rest : List (Nat × FeedMessage)}
    (h : l.queued = (l.subscription, m) :: rest) :
    l.waiting = m.event?.toList ++ ({ l with queued := rest } : Ledger).waiting := by
  simp only [waiting, h, List.filter_cons, beq_self_eq_true, if_true, List.filterMap_cons]
  cases m.event? <;> rfl

/-- A message of another subscription is not among the events that wait. -/
theorem waiting_of_other {l : Ledger} {sender : Nat} {m : FeedMessage}
    {rest : List (Nat × FeedMessage)} (h : l.queued = (sender, m) :: rest)
    (hsender : sender ≠ l.subscription) :
    l.waiting = ({ l with queued := rest } : Ledger).waiting := by
  simp [waiting, h, hsender]

/-- Taking a message of another subscription changes nothing but the queue. -/
theorem noteTaken_of_other {l : Ledger} {sender : Nat} {m : FeedMessage}
    {rest : List (Nat × FeedMessage)} (h : l.queued = (sender, m) :: rest)
    (hsender : sender ≠ l.subscription) : l.noteTaken = { l with queued := rest } := by
  simp only [noteTaken, h, if_neg hsender]

/-- Taking a message of the last subscription adds its event to those taken. -/
theorem noteTaken_of_own {l : Ledger} {m : FeedMessage} {rest : List (Nat × FeedMessage)}
    (h : l.queued = (l.subscription, m) :: rest) :
    l.noteTaken = { l with
      queued := rest
      taken := l.taken ++ m.event?.toList
      kept := if l.running then l.kept ++ m.event?.toList else l.kept } := by
  simp only [noteTaken, h, if_true]

/-- No message of the queue is of the next subscription. -/
theorem filter_next_eq_nil {l : Ledger} (h : ∀ q ∈ l.queued, q.1 ≤ l.subscription) :
    l.queued.filter (fun q => q.1 == l.subscription + 1) = [] := by
  refine List.filter_eq_nil_iff.mpr fun q hq => ?_
  have hle := h q hq
  simp only [beq_iff_eq]
  omega

/-- A subscription that starts has no event in the queue. -/
theorem waiting_noteSubscribed {l : Ledger} (h : ∀ q ∈ l.queued, q.1 ≤ l.subscription) :
    l.noteSubscribed.waiting = [] := by
  simp only [waiting, noteSubscribed, filter_next_eq_nil h, List.filterMap_nil]

end Ledger

/-! ### The buffer -/

theorem newest_nil (limit : Option Nat) : newest limit [] = [] := by
  unfold newest
  split <;> simp

/-- `Buffer.prepend` keeps the newest events. -/
theorem events_prepend {b : Buffer} {limit : Option Nat} {events : List DeviceEvent}
    (hlimit : b.limit = limit.filter (0 < ·))
    (hevents : b.events.map Buffered.event = newest limit events) (e : DeviceEvent) :
    (b.prepend e).2.events.map Buffered.event = newest limit (events ++ [e]) := by
  rcases limit with _ | _ | n
  case none | some.zero =>
    have hnone : b.limit = none := hlimit
    simp only [Buffer.prepend, hnone, newest, List.map_cons, hevents, List.reverse_append,
      List.reverse_singleton, List.singleton_append]
  case some.succ =>
    have hsome : b.limit = some (n + 1) := hlimit
    simp only [Buffer.prepend, hsome, newest, List.map_take, List.map_cons, hevents,
      List.reverse_append, List.reverse_singleton, List.singleton_append, List.take_succ_cons,
      List.take_take]
    -- The new event evicts at most one of those within the limit.
    rw [Nat.min_eq_left (Nat.le_succ n)]

/-! ### The invariant -/

/-- The invariant: the buffer, the queue and the task of a feed are as its ledger records. -/
structure Balanced (options : Options) (l : Ledger) (f : LiveFeed) : Prop where
  tidy : f.Tidy
  /-- The numbers of the ledger are the generations of the feed. -/
  generation : f.generation = l.subscription
  queue : f.queue = l.queued.map fun q => ⟨q.1, q.2⟩
  /-- No message of the queue is of a later subscription. -/
  senders : ∀ q ∈ l.queued, q.1 ≤ l.subscription
  running : f.subscription.isSome = l.running
  /-- The task marks its deliveries with the number of its own subscription. -/
  taskGeneration : ∀ t, f.task = some t → t.generation = l.subscription
  /-- The task sent all events it read, but for the one in its hand. -/
  inHand : ∀ t, f.task = some t →
    l.sent ++ t.inHand?.toList = l.read.filterMap Push.Message.event?
  sent : l.sent <+: l.read.filterMap Push.Message.event?
  taken : l.taken ++ l.waiting = l.sent
  kept : l.kept <+: l.taken
  /-- While the subscription runs, every event taken is kept. -/
  keptAll : l.running = true → l.kept = l.taken
  limit : f.buffer.limit = options.maxEvents.filter (0 < ·)
  buffer : f.buffer.events.map Buffered.event = newest options.maxEvents l.kept

namespace Balanced

variable {options : Options} {l : Ledger} {f f' : LiveFeed}

theorem start (filter : Filter) (options : Options) :
    Balanced options .empty (.new filter options) where
  tidy := .start filter options
  generation := rfl
  queue := rfl
  senders := by simp [Ledger.empty]
  running := rfl
  taskGeneration := nofun
  inHand := nofun
  sent := List.prefix_rfl
  taken := rfl
  kept := List.prefix_rfl
  keptAll := fun _ => rfl
  limit := rfl
  buffer := (newest_nil _).symm

/-- The last subscription was not ended as long as the feed has a handle. -/
theorem runs (h : Balanced options l f) {k : Handle} (hsubscription : f.subscription = some k) :
    l.running = true := by
  rw [← h.running, hsubscription]
  rfl

/-- A task sends the message that it offers. -/
theorem told (h : Balanced options l f) {k : Handle} {t t' : Task} {m : FeedMessage}
    (hlive : f.tasks.task? k = some t) (htells : Tells t m t') :
    Balanced options (l.noteSent m) { f with
      tasks := f.tasks.update k t', queue := f.queue ++ [⟨t.generation, m⟩] } := by
  have htask := h.tidy.task_eq hlive
  have hupdate := h.tidy.task_update hlive t' (f.queue ++ [⟨t.generation, m⟩])
  -- With the event from its hand, the task sent all that it read.
  have hinHand := h.inHand t htask
  rw [← htells.event?_eq] at hinHand
  refine { h with
    tidy := h.tidy.update hlive t' _
    queue := ?queue, senders := ?senders, taskGeneration := ?generation
    inHand := ?inHand, sent := ?sent, taken := ?taken }
  case queue =>
    rw [h.queue, h.taskGeneration t htask, Ledger.noteSent, List.map_append]
    rfl
  case senders =>
    intro q hq
    rcases List.mem_append.mp hq with hq | hq
    · exact h.senders q hq
    · rw [List.mem_singleton.mp hq]
      exact Nat.le_refl _
  case generation =>
    intro u hu
    obtain rfl := Option.some.inj (hupdate.symm.trans hu)
    exact htells.generation_eq.trans (h.taskGeneration t htask)
  case inHand =>
    intro u hu
    obtain rfl := Option.some.inj (hupdate.symm.trans hu)
    rw [htells.inHand?_eq, Option.toList_none, List.append_nil]
    exact hinHand
  case sent => exact ⟨[], (List.append_nil _).trans hinHand⟩
  case taken =>
    rw [Ledger.waiting_noteSent, ← List.append_assoc]
    exact congrArg (· ++ _) h.taken

/-- A task takes a step with its client. -/
theorem proceeded (h : Balanced options l f) {k : Handle} {t t' : Task} {c c' : Push.Client}
    (hlive : f.tasks.task? k = some t) (hoffer : t.offer? = none)
    (hproceeds : Proceeds t c t' c') :
    Balanced options (l.noteRead t.nextRead?) { f with tasks := f.tasks.update k t' } := by
  have htask := h.tidy.task_eq hlive
  have hupdate := h.tidy.task_update hlive t' f.queue
  have hread : (l.noteRead t.nextRead?).read.filterMap Push.Message.event?
      = l.sent ++ t'.inHand?.toList := by
    -- Before the step there was nothing in its hand, and after it there is what it read.
    have hbefore := h.inHand t htask
    rw [Task.inHand?_of_offer? hoffer, Option.toList_none, List.append_nil] at hbefore
    rw [Ledger.noteRead, List.filterMap_append, ← hbefore, hproceeds.inHand?_eq]
    cases t.nextRead? with
    | none => rfl
    | some m =>
      rw [Option.toList_some, List.filterMap_cons, Option.bind_some]
      cases m.event? <;> rfl
  refine { h with
    tidy := h.tidy.update hlive t' f.queue
    taskGeneration := ?generation, inHand := ?inHand, sent := ?sent }
  case generation =>
    intro u hu
    obtain rfl := Option.some.inj (hupdate.symm.trans hu)
    exact hproceeds.generation_eq.trans (h.taskGeneration t htask)
  case inHand =>
    intro u hu
    obtain rfl := Option.some.inj (hupdate.symm.trans hu)
    exact hread.symm
  case sent =>
    rw [hread]
    exact List.prefix_append _ _

/-- The delay of a task ends. -/
theorem woken (h : Balanced options l f) {k : Handle} {t : Task} {delay : Time.Span}
    (hlive : f.tasks.task? k = some t) (hstage : t.stage = .waiting delay) :
    Balanced options l
      { f with tasks := f.tasks.update k { t with stage := .announcing } } := by
  have htask := h.tidy.task_eq hlive
  have hupdate := h.tidy.task_update hlive { t with stage := .announcing } f.queue
  refine { h with
    tidy := h.tidy.update hlive _ f.queue
    taskGeneration := ?generation, inHand := ?inHand }
  case generation =>
    intro u hu
    obtain rfl := Option.some.inj (hupdate.symm.trans hu)
    exact h.taskGeneration t htask
  case inHand =>
    intro u hu
    obtain rfl := Option.some.inj (hupdate.symm.trans hu)
    have hinHand := h.inHand t htask
    rw [Task.inHand?, hstage] at hinHand
    exact hinHand

/-- The oldest delivery of the queue is the oldest of the ledger. -/
theorem queued_eq (h : Balanced options l f) {d : Delivery} {rest : List Delivery}
    (hqueue : f.queue = d :: rest) :
    ∃ queued, l.queued = (d.generation, d.message) :: queued ∧
      rest = queued.map (fun q => ⟨q.1, q.2⟩) ∧ ∀ q ∈ queued, q.1 ≤ l.subscription := by
  have hmap := h.queue.symm.trans hqueue
  obtain ⟨⟨sender, m⟩, queued, hqueued, rfl, rfl⟩ := List.map_eq_cons_iff.mp hmap
  refine ⟨queued, hqueued, rfl, ?_⟩
  intro q hq
  exact h.senders q (hqueued ▸ List.mem_cons_of_mem _ hq)

/-- A delivery is dropped. -/
theorem dropped (h : Balanced options l f) {d : Delivery} {rest : List Delivery}
    (hqueue : f.queue = d :: rest)
    (hother : d.generation ≠ f.generation ∨ f.subscription = none) :
    Balanced options l.noteTaken { f with queue := rest } := by
  obtain ⟨queued, hqueued, hrest, hsenders⟩ := h.queued_eq hqueue
  by_cases hsender : d.generation = l.subscription
  -- The last subscription sent it: the feed drops it only because that subscription was ended, and
  -- from then on nothing is kept.
  · have hstopped : l.running = false := by
      rcases hother with hother | hother
      · exact absurd (hsender.trans h.generation.symm) hother
      · rw [← h.running, hother]
        rfl
    rw [hsender] at hqueued
    rw [Ledger.noteTaken_of_own hqueued, hstopped]
    refine { h with
      tidy := h.tidy.of_same rfl rfl rfl
      queue := hrest, senders := hsenders, taken := ?taken, kept := ?kept
      running := h.running.trans hstopped, keptAll := nofun }
    case taken =>
      have htaken := h.taken
      rw [Ledger.waiting_of_own hqueued, ← List.append_assoc] at htaken
      exact htaken
    case kept => exact h.kept.trans (List.prefix_append _ _)
  -- Another subscription sent it, so it is not among the events of the last one.
  · rw [Ledger.noteTaken_of_other hqueued hsender]
    refine { h with
      tidy := h.tidy.of_same rfl rfl rfl
      queue := hrest, senders := hsenders, taken := ?taken }
    have htaken := h.taken
    rw [Ledger.waiting_of_other hqueued hsender] at htaken
    exact htaken

/-- A delivery of the running subscription is accepted. -/
theorem accepted (h : Balanced options l f) {m : FeedMessage} {rest : List Delivery} {k : Handle}
    (now : Time.Instant) (hqueue : f.queue = ⟨f.generation, m⟩ :: rest)
    (hsubscription : f.subscription = some k) :
    Balanced options l.noteTaken ({ f with queue := rest }.accept now m).2 := by
  obtain ⟨queued, hqueued, hrest, hsenders⟩ := h.queued_eq hqueue
  -- The generation of the delivery is that of the feed, so the last subscription sent it.
  have hrunning := h.runs hsubscription
  have hkept := h.keptAll hrunning
  rw [h.generation] at hqueued
  rw [Ledger.noteTaken_of_own hqueued, if_pos hrunning]
  have htaken := h.taken
  rw [Ledger.waiting_of_own hqueued, ← List.append_assoc] at htaken
  have hbuffer : ({ f with queue := rest }.accept now m).2.buffer.events.map Buffered.event
      = newest options.maxEvents (l.kept ++ m.event?.toList) := by
    cases m with
    | state s =>
      rw [FeedMessage.event?, Option.toList_none, List.append_nil]
      exact h.buffer
    | event e => exact events_prepend h.limit h.buffer e
  exact {
    tidy := h.tidy.of_same (LiveFeed.accept_subscription ..) (LiveFeed.accept_tasks ..)
      (LiveFeed.accept_senders ..)
    generation := (LiveFeed.accept_generation ..).trans h.generation
    queue := (LiveFeed.accept_queue ..).trans hrest
    senders := hsenders
    running := by rw [LiveFeed.accept_subscription]; exact h.running
    taskGeneration := by rw [LiveFeed.accept_task]; exact h.taskGeneration
    inHand := by rw [LiveFeed.accept_task]; exact h.inHand
    sent := h.sent
    taken := htaken
    kept := ⟨[], (List.append_nil _).trans (congrArg (· ++ _) hkept)⟩
    keptAll := fun _ => congrArg (· ++ _) hkept
    limit := by cases m <;> exact h.limit
    buffer := hbuffer }

/-- A subscription starts. -/
theorem subscribed (h : Balanced options l f) : Balanced options l.noteSubscribed f.subscribe := by
  have htidy := h.tidy.subscribe
  have htask := f.task_subscribe
  obtain ⟨handle, tasks, senders, hsubscribe, -⟩ := f.exists_subscribe_eq
  rw [hsubscribe] at htidy htask ⊢
  exact {
    tidy := htidy
    generation := congrArg (· + 1) h.generation
    queue := h.queue
    senders := fun q hq => Nat.le_succ_of_le (h.senders q hq)
    running := rfl
    taskGeneration := by
      intro u hu
      obtain rfl := Option.some.inj (htask.symm.trans hu)
      exact congrArg (· + 1) h.generation
    inHand := by
      intro u hu
      obtain rfl := Option.some.inj (htask.symm.trans hu)
      rfl
    sent := List.prefix_rfl
    taken := Ledger.waiting_noteSubscribed h.senders
    kept := List.prefix_rfl
    keptAll := fun _ => rfl
    limit := h.limit
    buffer := (newest_nil _).symm }

/-- The filter does not occur in the invariant. -/
theorem refiltered (h : Balanced options l f) (filter : Filter) :
    Balanced options l { f with filter := filter } :=
  { h with tidy := h.tidy.of_same rfl rfl rfl }

/-- The subscription is ended. -/
theorem ended (h : Balanced options l f) : Balanced options l.noteEnded f.teardown := by
  have htidy := h.tidy.ended
  obtain ⟨tasks, senders, hteardown⟩ := f.exists_teardown_eq
  rw [hteardown] at htidy ⊢
  exact { h with
    tidy := htidy
    running := rfl
    taskGeneration := nofun
    inHand := nofun
    keptAll := nofun }

/-- The feed is shut down. -/
theorem shutDown (h : Balanced options l f) : Balanced options l.noteShutdown f.shutdown :=
  { h.ended with
    tidy := h.tidy.ended.of_same rfl rfl rfl
    kept := List.nil_prefix
    keptAll := nofun
    buffer := (newest_nil _).symm }

/-- Every act keeps the invariant. -/
theorem act (h : Balanced options l f) {a : LiveFeed.Act} (hact : f.act? a = some f') :
    Balanced options (l.note f a) f' := by
  cases a with
  | work k client =>
    obtain ⟨⟨_, client'⟩, hwork, rfl⟩ := Option.map_eq_some_iff.mp hact
    cases LiveFeed.works hwork with
    | told hlive hoffer htells =>
      rw [Ledger.note, hlive, Option.bind_some, hoffer]
      exact h.told hlive htells
    | proceeded hlive hoffer hproceeds =>
      rw [Ledger.note, hlive, Option.bind_some, hoffer]
      exact h.proceeded hlive hoffer hproceeds
  | wake k =>
    obtain ⟨t, delay, hlive, hstage, rfl⟩ := LiveFeed.wake_eq_some hact
    exact h.woken hlive hstage
  | take now =>
    obtain ⟨⟨update, _⟩, htake, rfl⟩ := Option.map_eq_some_iff.mp hact
    cases LiveFeed.takes htake with
    | dropped hqueue hother => exact h.dropped hqueue hother
    | accepted hqueue hsubscription => exact h.accepted now hqueue hsubscription
  -- Every setter replaces the filter and subscribes.
  | subscribe | setFilter filter | setDevices uuids | setCodes codes | setActions actions =>
    obtain rfl := Option.some.inj hact
    exact (h.refiltered _).subscribed
  | teardown =>
    obtain rfl := Option.some.inj hact
    exact h.ended
  | shutdown =>
    obtain rfl := Option.some.inj hact
    exact h.shutDown
  | setAll expanded | toggleRow seq =>
    obtain rfl := Option.some.inj hact
    exact { h with tidy := h.tidy.of_same rfl rfl rfl }

end Balanced

/-- The invariant holds in every run. -/
theorem balanced_of_run (filter : Filter) (options : Options) {l : Ledger} {f : LiveFeed}
    (h : LiveFeed.Observed Ledger.note .empty (.new filter options) l f) :
    Balanced options l f := by
  induction h with
  | start => exact .start filter options
  | act _ hact ih => exact ih.act hact

/-! ### Runs -/

/-- The act clears the buffer. -/
def LiveFeed.Act.letsGo : LiveFeed.Act → Bool
  | .subscribe | .setFilter _ | .setDevices _ | .setCodes _ | .setActions _ | .shutdown => true
  | .work _ _ | .wake _ | .take _ | .teardown | .setAll _ | .toggleRow _ => false

theorem events_of_letsGo {f f' : LiveFeed} {a : LiveFeed.Act} (hgo : a.letsGo = true)
    (hact : f.act? a = some f') : f'.buffer.events = [] := by
  cases a with
  | subscribe | setFilter filter | setDevices uuids | setCodes codes | setActions actions
  | shutdown =>
    obtain rfl := Option.some.inj hact
    rfl
  | work k client | wake k | take now | teardown | setAll expanded | toggleRow seq => cases hgo

/-- Taking a message of a subscription that is over changes nothing but the queue. -/
theorem Balanced.take_of_other {options : Options} {l : Ledger} {f f' : LiveFeed}
    {now : Time.Instant} {update : Option Update} (h : Balanced options l f)
    (htake : f.take now = some (update, f'))
    (hother : l.running = false ∨ l.queued.head?.map Prod.fst ≠ some l.subscription) :
    update = none ∧ f' = { f with queue := f.queue.tail } := by
  cases LiveFeed.takes htake with
  | dropped hqueue =>
    rw [hqueue]
    exact ⟨rfl, rfl⟩
  | accepted hqueue hsubscription =>
    obtain ⟨queued, hqueued, -⟩ := h.queued_eq hqueue
    -- What is accepted was sent by the last subscription, and that one is running.
    rcases hother with hstopped | hsender
    · rw [h.runs hsubscription] at hstopped
      cases hstopped
    · rw [hqueued, h.generation] at hsender
      exact absurd rfl hsender

/-- In every run, the buffer holds the events that the running subscription sent and the feed took,
newest first and within the limit. They are taken in the order in which they were sent, and sent in
the order in which they were read, with none left out. Taking a message of a subscription that is
over changes nothing but the queue, and after each change of the filter the buffer is empty. -/
theorem buffer_of_run (filter : Filter) (options : Options) {l : Ledger} {f : LiveFeed}
    (h : LiveFeed.Observed Ledger.note .empty (.new filter options) l f) :
    f.buffer.events.map Buffered.event = newest options.maxEvents l.kept ∧
      l.kept <+: l.taken ∧ (l.running = true → l.kept = l.taken) ∧
      f.queue.map Delivery.message = l.queued.map Prod.snd ∧
      l.taken ++ l.waiting = l.sent ∧
      l.taken ++ l.waiting <+: l.read.filterMap Push.Message.event? ∧
      (l.running = false → f.task = none ∧ f.tasks.live = []) ∧
      (∀ now update f', f.take now = some (update, f') →
        l.running = false ∨ l.queued.head?.map Prod.fst ≠ some l.subscription →
        update = none ∧ f' = { f with queue := f.queue.tail }) ∧
      ∀ a f', f.act? a = some f' → LiveFeed.Act.letsGo a = true → f'.buffer.events = [] := by
  have hbalanced := balanced_of_run filter options h
  refine ⟨hbalanced.buffer, hbalanced.kept, hbalanced.keptAll, ?_, hbalanced.taken, ?_, ?_, ?_, ?_⟩
  · rw [hbalanced.queue, List.map_map]
    rfl
  · rw [hbalanced.taken]
    exact hbalanced.sent
  · intro hstopped
    have hnone : f.task = none := by
      rw [← Option.not_isSome_iff_eq_none, hbalanced.tidy.isSome_task, hbalanced.running, hstopped]
      exact Bool.false_ne_true
    rw [hbalanced.tidy.live_eq, hnone]
    exact ⟨rfl, rfl⟩
  · exact fun now update f' htake hother => hbalanced.take_of_other htake hother
  · exact fun a f' hact hgo => events_of_letsGo hgo hact

/-- A task that reads goes on with what arrives. -/
theorem LiveFeed.Observed.read {Seen : Type} {note : Seen → LiveFeed → LiveFeed.Act → Seen}
    {seen₀ seen : Seen} {f₀ f : LiveFeed} {t : Task} {c : Push.Connection} {stage : Stage}
    (h : Observed note seen₀ f₀ seen f) {k : Handle} (hlive : f.tasks.task? k = some t)
    (hstage : t.stage = .reading c) (harrived : Task.arrived? c = some stage)
    (client : Push.Client) :
    Observed note seen₀ f₀ (note seen f (.work k client))
      { f with tasks := f.tasks.update k { t with stage := stage } } := by
  have hproceed : t.proceed client = some ({ t with stage := stage }, client) := by
    rw [Task.proceed, hstage]
    exact congrArg (Option.map _) harrived
  have hgoes : ({ t with stage := stage } : Task).stage ≠ .finished :=
    (Task.proceeds hproceed).goesOn
  refine h.act ?_
  simp only [act?, work, hlive, Task.offer?, hstage, hproceed, Option.map_some,
    stepped_of_goesOn f k hgoes]

/-- A client that opens a connection on which one event arrives. -/
def oneEvent : Push.Client := .ofScript [.opened ⟨[.message (.text sentEvent)], false⟩]

/-- The choices for a feed that keeps one event. -/
def keepOne : Options := ⟨⟨500, .ofMillis 30000⟩, 8, some 1, false⟩

/-- A run in which the filter changes while an event is in the queue. The event of the second
subscription is the only one that is kept. -/
theorem buffer_of_changedFilter :
    ∃ l f, LiveFeed.Observed Ledger.note .empty (.new .empty keepOne) l f ∧ l.subscription = 2 ∧
      l.queued = [] ∧ l.kept = [readEvent] ∧
      f.buffer.events.map Buffered.event = newest keepOne.maxEvents l.kept := by
  have harrived : Task.arrived? ⟨[.message (.text sentEvent)], false⟩
      = some (.passing readEvent ⟨[], false⟩) := by
    simp only [Task.arrived?, event?_sentEvent]
  have hstart : LiveFeed.Observed Ledger.note .empty (.new .empty keepOne) .empty
      (.new .empty keepOne) := .start
  -- The first subscription sends two states and its event.
  have hasked := (hstart.act (a := .subscribe) rfl).act (a := .work 0 oneEvent) rfl
  have hopened := (hasked.act (a := .work 0 oneEvent) rfl).act (a := .work 0 oneEvent) rfl
  have hsent := (hopened.read (k := 0) rfl rfl harrived oneEvent).act (a := .work 0 oneEvent) rfl
  have hchanged := hsent.act (a := .setCodes ["VideoMotion"]) rfl
  have hasked' := hchanged.act (a := .work 1 oneEvent) rfl
  have hopened' := (hasked'.act (a := .work 1 oneEvent) rfl).act (a := .work 1 oneEvent) rfl
  have hsent' := (hopened'.read (k := 1) rfl rfl harrived oneEvent).act (a := .work 1 oneEvent) rfl
  -- Three deliveries of each subscription are taken.
  have htaken := ((hsent'.act (a := .take ⟨0, 0⟩) rfl).act (a := .take ⟨0, 0⟩) rfl).act
    (a := .take ⟨0, 0⟩) rfl
  have htaken' := ((htaken.act (a := .take ⟨0, 0⟩) rfl).act (a := .take ⟨0, 0⟩) rfl).act
    (a := .take ⟨0, 0⟩) rfl
  exact ⟨_, _, htaken', rfl, rfl, rfl, (buffer_of_run .empty keepOne htaken').1⟩

end CameraFeed.Feed
