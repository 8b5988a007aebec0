import CameraFeed.Proofs.Feed.Operations
import CameraFeed.Proofs.Feed.Rows
import Mathlib.Data.List.Forall2

/-! # Connections — the connections of every run

  A `Book` records each request for a connection with the task that made it, and each event with the
  request that its connection was opened with. The task table of a feed can hold any number of tasks
  and connections; `Ordered` is the invariant from which `connections_of_run` concludes that there
  is one at most, that none exists while a task is about to ask for one, that each is asked for with
  the filter that the feed had when the subscription started, and that all events of the buffer came
  from connections with the filter of the feed.

  A connection is closed when its task drops it, after a failure or its end, and when the task
  itself is dropped. -/

namespace CameraFeed.Feed

open Push (Attempt Client)

/-! ### Books -/

/-- A request for a connection. -/
structure Request where
  /-- The handle of the task that made it. -/
  task : Handle
  /-- The generation of that task. -/
  generation : Nat
  filter : Filter

/-- A record of the requests and the events of a run of scenes. -/
structure Book where
  /-- The number of subscriptions so far. -/
  subscription : Nat
  /-- The filter of the feed when the last subscription started, or when there was none. -/
  chosen : Filter
  /-- The requests so far, the last one first. -/
  requests : List Request
  /-- For each delivery in the queue, its event and the request of the connection it came from. -/
  queued : List (Option (DeviceEvent × Request))
  /-- The same for the events that were added to the buffer since the last subscription started,
  newest first. -/
  kept : List (DeviceEvent × Request)

namespace Book

/-- The record of a feed before its first step. -/
def new (filter : Filter) : Book := ⟨0, filter, [], [], []⟩

/-- The last request of a task. A task owns one connection at a time, so each event that it sends
came from the connection of its last request. -/
def request? (b : Book) (h : Handle) : Option Request := b.requests.find? (·.task == h)

/-- A task asks its client for a connection. -/
def noteAsked (b : Book) (h : Handle) (t : Task) : Book :=
  { b with requests := ⟨h, t.generation, t.filter⟩ :: b.requests }

/-- A task sends a message. -/
def noteSent (b : Book) (h : Handle) (m : FeedMessage) : Book :=
  { b with queued := b.queued ++ [m.event?.bind fun e => (b.request? h).map fun r => (e, r)] }

/-- A step of a task. -/
def noteWork (b : Book) (h : Handle) (t : Task) : Book :=
  match t.stage with
  | .connecting => b.noteAsked h t
  | _ => t.offer?.elim b (b.noteSent h)

/-- The feed takes the oldest delivery of the queue, with an update or without. -/
def noteTaken (b : Book) (update : Option Update) : Book :=
  match b.queued with
  | [] => b
  | q :: rest =>
    { b with
      queued := rest
      kept := match update with
        | some (.event _) => q.toList ++ b.kept
        | _ => b.kept }

/-- A subscription starts with the filter of the feed. -/
def noteStarted (b : Book) (filter : Filter) : Book :=
  { b with subscription := b.subscription + 1, chosen := filter, kept := [] }

/-- The last step of an operation. -/
def noteComplete (b : Book) (filter : Filter) : Operation → Book
  | .teardown => b
  | .shutdown => { b with kept := [] }
  | _ => b.noteStarted filter

/-- The record after a move, given the scene before it. -/
def note (b : Book) (s : Scene) : Move → Book
  | .work h => (s.feed.tasks.task? h).elim b (b.noteWork h)
  | .take now => b.noteTaken ((s.feed.take now).bind Prod.fst)
  | .complete => s.underway.elim b fun u => b.noteComplete s.feed.filter u.operation
  | .wake _ | .start _ | .retire | .setAll _ | .toggleRow _ => b

/-- The request of an event is in the book, and was made under a generation. -/
def Came (b : Book) (generation : Nat) (p : DeviceEvent × Request) : Prop :=
  p.2 ∈ b.requests ∧ p.2.generation = generation

/-- More requests do not change where an event came from. -/
theorem Came.mono {b b' : Book} {generation : Nat} {p : DeviceEvent × Request}
    (h : b.Came generation p) (hrequests : b.requests ⊆ b'.requests) : b'.Came generation p :=
  ⟨hrequests h.1, h.2⟩

end Book

/-- The handle of the task that may be live: that of the subscription, or the one that an operation
waits for. -/
def Scene.owner (s : Scene) : Option Handle :=
  match s.underway with
  | none => s.feed.subscription
  | some u => u.awaited

/-! ### Order -/

/-- The invariant of a scene and its book. -/
structure Ordered (b : Book) (s : Scene) : Prop where
  generation : s.feed.generation = b.subscription
  /-- The client was asked for what is in the book. -/
  asked : s.client.asked = b.requests.map Request.filter
  requests : ∀ r ∈ b.requests, r.generation ≤ b.subscription ∧
    (r.generation = b.subscription → r.filter = b.chosen)
  /-- No other task than that of the owner is live. -/
  owned : s.feed.Owned s.owner
  /-- An operation takes the handle out of the feed when it starts. -/
  released : ∀ u, s.underway = some u → s.feed.subscription = none
  task : ∀ h t, s.feed.tasks.task? h = some t →
    t.filter = b.chosen ∧ t.generation = b.subscription
  /-- A task that owns a connection has asked for it. -/
  came : ∀ h t, s.feed.tasks.task? h = some t → t.connection?.isSome = true →
    ∃ r, b.request? h = some r ∧ r.generation = b.subscription
  queue : List.Forall₂ (fun d q => d.message.event? = q.map Prod.fst ∧
    ∀ p, q = some p → b.Came d.generation p) s.feed.queue b.queued
  kept : ∀ p ∈ b.kept, b.Came b.subscription p
  buffer : s.feed.buffer.events.map Buffered.event <+: b.kept.map Prod.fst
  /-- The filter of the feed stays as it was chosen until one of the setters replaces it. -/
  filter : (∀ u, s.underway = some u → u.operation.refilters = false) → s.feed.filter = b.chosen

/-! ### Steps of a task -/

/-- A task owns the same connection after it sent a message. -/
theorem Tells.connection?_eq {t t' : Task} {m : FeedMessage} (h : Tells t m t') :
    t'.connection? = t.connection? := by
  cases h with
  | announced hstage | opened hstage | passed hstage | ended hstage =>
    simp only [Task.connection?, hstage]

/-- A task owns a connection as long as it has an event to send. -/
theorem Tells.isSome_connection? {t t' : Task} {m : FeedMessage} {e : DeviceEvent}
    (h : Tells t m t') (hevent : m.event? = some e) : t.connection?.isSome = true := by
  cases h with
  | announced | opened | ended => cases hevent
  | passed hstage =>
    rw [Task.connection?, hstage]
    rfl

theorem Tells.filter_eq {t t' : Task} {m : FeedMessage} (h : Tells t m t') :
    t'.filter = t.filter := by
  cases h <;> rfl

theorem Tells.noteWork_eq {t t' : Task} {m : FeedMessage} (h : Tells t m t')
    (hoffer : t.offer? = some m) (b : Book) (k : Handle) : b.noteWork k t = b.noteSent k m := by
  cases h with
  | announced hstage | opened hstage | passed hstage | ended hstage =>
    rw [Book.noteWork, hstage, hoffer]
    rfl

theorem asked_connect (c : Client) (filter : Filter) :
    (c.connect filter).2.asked = filter :: c.asked := by
  obtain ⟨script, asked⟩ := c
  cases script <;> rfl

namespace Ordered

variable {b : Book} {s s' : Scene} {h : Handle} {t t' : Task}

theorem start (filter : Filter) (options : Options) (client : Client)
    (hclient : client.asked = []) :
    Ordered (.new filter) ⟨.new filter options, client, none⟩ where
  generation := rfl
  asked := hclient
  requests := nofun
  owned := (LiveFeed.Tidy.start filter options).owned
  released := nofun
  task := nofun
  came := nofun
  queue := .nil
  kept := nofun
  buffer := List.prefix_rfl
  filter := fun _ => rfl

/-- A step keeps the filter and the generation of its task, which is the only live one. -/
theorem task_update (hb : Ordered b s) (hlive : s.feed.tasks.task? h = some t)
    (hfilter : t'.filter = t.filter) (hgeneration : t'.generation = t.generation) :
    ∀ k u, (s.feed.tasks.update h t').task? k = some u →
      u.filter = b.chosen ∧ u.generation = b.subscription := by
  intro k u hk
  obtain ⟨rfl, rfl⟩ := hb.owned.eq_of_update hlive hk
  rw [hfilter, hgeneration]
  exact hb.task k t hlive

/-- A step in which its task asks for nothing leaves it with a connection only if it had one. -/
theorem came_update (hb : Ordered b s) (hlive : s.feed.tasks.task? h = some t)
    (hheld : t'.connection?.isSome = true → t.connection?.isSome = true) :
    ∀ k u, (s.feed.tasks.update h t').task? k = some u → u.connection?.isSome = true →
      ∃ r, b.request? k = some r ∧ r.generation = b.subscription := by
  intro k u hk hconnection
  obtain ⟨rfl, rfl⟩ := hb.owned.eq_of_update hlive hk
  exact hb.came k t hlive (hheld hconnection)

/-- A task sends the message that it offers. -/
theorem told (hb : Ordered b s) {m : FeedMessage} (hlive : s.feed.tasks.task? h = some t)
    (htells : Tells t m t') :
    Ordered (b.noteSent h m) { s with feed := { s.feed with
      tasks := s.feed.tasks.update h t', queue := s.feed.queue ++ [⟨t.generation, m⟩] } } := by
  refine { hb with
    owned := hb.owned.update hlive t' _
    task := hb.task_update hlive htells.filter_eq htells.generation_eq
    came := hb.came_update hlive fun hsome => htells.connection?_eq ▸ hsome
    queue := List.rel_append hb.queue (.cons ?_ .nil) }
  cases hevent : m.event? with
  | none => exact ⟨rfl, nofun⟩
  | some e =>
    -- The event came from the connection of the task, and its last request is the one for that.
    obtain ⟨r, hrequest, hgeneration⟩ := hb.came h t hlive (htells.isSome_connection? hevent)
    rw [Option.bind_some, hrequest]
    refine ⟨rfl, ?_⟩
    rintro _ ⟨⟩
    exact ⟨List.mem_of_find?_eq_some hrequest, hgeneration.trans (hb.task h t hlive).2.symm⟩

/-- A task asks its client for a connection. -/
theorem attempted (hb : Ordered b s) (hlive : s.feed.tasks.task? h = some t)
    (hfilter : t'.filter = t.filter) (hgeneration : t'.generation = t.generation) :
    Ordered (b.noteAsked h t) { s with
      feed := { s.feed with tasks := s.feed.tasks.update h t' }
      client := (s.client.connect t.filter).2 } := by
  obtain ⟨hchosen, hown⟩ := hb.task h t hlive
  have hmore : b.requests ⊆ (b.noteAsked h t).requests := List.subset_cons_self _ _
  refine { hb with
    asked := (asked_connect s.client t.filter).trans (congrArg (t.filter :: ·) hb.asked)
    requests := ?requests
    owned := hb.owned.update hlive t' _
    task := hb.task_update hlive hfilter hgeneration
    came := ?came
    queue := hb.queue.imp fun d q hd => ⟨hd.1, fun p hp => (hd.2 p hp).mono hmore⟩
    kept := fun p hp => (hb.kept p hp).mono hmore }
  case requests =>
    intro r hr
    rcases List.mem_cons.mp hr with rfl | hr
    · exact ⟨Nat.le_of_eq hown, fun _ => hchosen⟩
    · exact hb.requests r hr
  -- The new request is the last one of the task.
  case came =>
    intro k u hk _
    obtain ⟨rfl, rfl⟩ := hb.owned.eq_of_update hlive hk
    exact ⟨⟨k, t.generation, t.filter⟩, List.find?_cons_of_pos (beq_self_eq_true k), hown⟩

/-- A step in which a task neither sends nor asks. -/
theorem updated (hb : Ordered b s) (hlive : s.feed.tasks.task? h = some t)
    (hfilter : t'.filter = t.filter) (hgeneration : t'.generation = t.generation)
    (hheld : t'.connection?.isSome = true → t.connection?.isSome = true) :
    Ordered b { s with feed := { s.feed with tasks := s.feed.tasks.update h t' } } :=
  { hb with
    owned := hb.owned.update hlive t' _
    task := hb.task_update hlive hfilter hgeneration
    came := hb.came_update hlive hheld }

/-- A task deals with its client. -/
theorem proceeded (hb : Ordered b s) {c' : Client} (hlive : s.feed.tasks.task? h = some t)
    (hproceeds : Proceeds t s.client t' c') :
    Ordered (b.noteWork h t) { s with
      feed := { s.feed with tasks := s.feed.tasks.update h t' }, client := c' } := by
  cases hproceeds with
  | refused hstage | opened hstage =>
    rw [Book.noteWork, hstage]
    exact hb.attempted hlive rfl rfl
  | read hstage =>
    rw [Book.noteWork, hstage, Task.offer?, hstage]
    refine hb.updated hlive rfl rfl fun _ => ?_
    rw [Task.connection?, hstage]
    rfl

/-! ### Steps of the feed -/

/-- The feed takes a delivery that does not concern it. -/
theorem dropped (hb : Ordered b s) {d : Delivery} {rest : List Delivery}
    (hqueue : s.feed.queue = d :: rest) :
    Ordered (b.noteTaken none) { s with feed := { s.feed with queue := rest } } := by
  have hall := hb.queue
  rw [hqueue] at hall
  cases hbooked : b.queued with
  | nil =>
    rw [hbooked] at hall
    cases hall
  | cons q queued =>
    rw [hbooked] at hall
    simp only [Book.noteTaken, hbooked]
    exact { hb with
      owned := ⟨hb.owned.only, hb.owned.senders⟩
      queue := (List.forall₂_cons.mp hall).2 }

/-- The feed takes a delivery of its subscription. -/
theorem accepted (hb : Ordered b s) {m : FeedMessage} {rest : List Delivery} (now : Time.Instant)
    (hqueue : s.feed.queue = ⟨s.feed.generation, m⟩ :: rest) :
    Ordered (b.noteTaken (some ({ s.feed with queue := rest }.accept now m).1)) { s with
      feed := ({ s.feed with queue := rest }.accept now m).2 } := by
  have hall := hb.queue
  rw [hqueue] at hall
  cases hbooked : b.queued with
  | nil =>
    rw [hbooked] at hall
    cases hall
  | cons q queued =>
    rw [hbooked] at hall
    obtain ⟨⟨hevent, hcame⟩, hrest⟩ := List.forall₂_cons.mp hall
    simp only [Book.noteTaken, hbooked]
    cases m with
    | state state =>
      exact { hb with owned := ⟨hb.owned.only, hb.owned.senders⟩, queue := hrest }
    | event e =>
      obtain ⟨p, rfl, rfl⟩ := Option.map_eq_some_iff.mp hevent.symm
      refine { hb with
        owned := ⟨hb.owned.only, hb.owned.senders⟩, queue := hrest, kept := ?_, buffer := ?_ }
      · intro p' hp'
        rcases List.mem_cons.mp hp' with rfl | hp'
        · rw [← hb.generation]
          exact hcame p' rfl
        · exact hb.kept p' hp'
      -- The event is the first one of both lists, and the buffer may evict its last one.
      · have hprefix := (s.feed.buffer.events_prepend_prefix p.1).map Buffered.event
        exact hprefix.trans (List.cons_prefix_cons.mpr ⟨rfl, hb.buffer⟩)

/-! ### Steps of an operation -/

/-- An operation starts. Its task is the one that was the task of the subscription. -/
theorem begun (hb : Ordered b s) (o : Operation) (hrest : s.underway = none) :
    Ordered b
      { s with feed := o.prepare s.feed, underway := some ⟨o, s.feed.subscription⟩ } := by
  have howned : s.feed.Owned s.feed.subscription := by
    have howned := hb.owned
    rw [Scene.owner, hrest] at howned
    exact howned
  refine { hb with
    owned := ⟨howned.only, howned.senders⟩, released := fun _ _ => rfl, filter := ?_ }
  intro hkeeps
  have hfilter := hb.filter (by rw [hrest]; nofun)
  exact (Operation.refilter_of_not_refilters (hkeeps _ rfl) _).trans hfilter

/-- The task that an operation waits for is dropped. -/
theorem retired (hb : Ordered b s) {u : Underway} (hunderway : s.underway = some u)
    (hawaited : u.awaited = some h) : Ordered b { s with feed := s.feed.retire h } := by
  have howner : s.owner = some h := by
    rw [Scene.owner, hunderway]
    exact hawaited
  have hnone : (s.feed.retire h).Owned none := (howner ▸ hb.owned).retire
  obtain ⟨tasks, senders, hretire⟩ := s.feed.exists_retire_eq h
  rw [hretire] at hnone ⊢
  -- No task is live, so that nothing is left to show of any.
  refine { hb with
    owned := hnone.of_none _
    task := ?_
    came := ?_ }
  · intro k u hk
    cases hnone.only k u hk
  · intro k u hk
    cases hnone.only k u hk

/-- No task is live when an operation comes to its last step. -/
theorem quiet (hb : Ordered b s) {u : Underway} (hunderway : s.underway = some u)
    (hover : ∀ h, u.awaited = some h → s.feed.tasks.task? h = none) : s.feed.Owned none := by
  have howned := hb.owned
  rw [Scene.owner, hunderway] at howned
  refine ⟨fun k t hk => ?_, howned.senders⟩
  have hdropped := hover k (howned.only k t hk)
  rw [hdropped] at hk
  cases hk

/-- A subscription starts. -/
theorem started (hb : Ordered b s) (hquiet : s.feed.Owned none) :
    Ordered (b.noteStarted s.feed.filter)
      { s with feed := s.feed.calm.discard.spawn, underway := none } := by
  have howned : s.feed.calm.discard.spawn.Owned s.feed.calm.discard.spawn.subscription :=
    LiveFeed.Owned.spawn ⟨hquiet.only, hquiet.senders⟩
  -- The only live task is the one that is spawned.
  have hnew : ∀ k t, s.feed.calm.discard.spawn.tasks.task? k = some t →
      t = .start s.feed.filter (s.feed.generation + 1) s.feed.retry := by
    intro k t hk
    obtain rfl := Option.some.inj (howned.only k t hk)
    exact Option.some.inj (hk.symm.trans TaskTable.task?_spawn_self)
  refine {
    generation := congrArg (· + 1) hb.generation
    asked := hb.asked
    requests := ?requests
    owned := howned
    released := nofun
    task := ?task
    came := ?came
    queue := hb.queue
    kept := nofun
    buffer := List.prefix_rfl
    filter := fun _ => rfl }
  -- No request was made under the next generation yet.
  case requests =>
    intro r hr
    have hle : r.generation ≤ b.subscription := (hb.requests r hr).1
    refine ⟨Nat.le_succ_of_le hle, fun heq => ?_⟩
    have hnext : r.generation = b.subscription + 1 := heq
    omega
  case task =>
    intro k t hk
    rw [hnew k t hk]
    exact ⟨rfl, congrArg (· + 1) hb.generation⟩
  case came =>
    intro k t hk hconnection
    rw [hnew k t hk] at hconnection
    cases hconnection

/-- The subscription is ended. -/
theorem ended (hb : Ordered b s) {u : Underway} (hunderway : s.underway = some u)
    (hkeeps : u.operation.refilters = false) (hquiet : s.feed.Owned none) :
    Ordered b { s with feed := s.feed.calm, underway := none } := by
  have hsubscription : s.feed.calm.subscription = none := hb.released u hunderway
  refine { hb with owned := ?owned, released := nofun, filter := fun _ => ?filter }
  case owned =>
    show s.feed.calm.Owned s.feed.calm.subscription
    rw [hsubscription]
    exact ⟨hquiet.only, hquiet.senders⟩
  case filter =>
    refine hb.filter ?_
    rw [hunderway]
    rintro _ ⟨⟩
    exact hkeeps

/-- An operation takes its last step. -/
theorem completed (hb : Ordered b s) {u : Underway} (hunderway : s.underway = some u)
    (hquiet : s.feed.Owned none) :
    Ordered (b.noteComplete s.feed.filter u.operation)
      { s with feed := u.operation.complete s.feed, underway := none } := by
  obtain ⟨operation, awaited⟩ := u
  cases operation with
  | subscribe | setFilter filter | setDevices uuids | setCodes codes | setActions actions =>
    exact hb.started hquiet
  | teardown => exact hb.ended hunderway rfl hquiet
  | shutdown =>
    have hended := hb.ended hunderway rfl hquiet
    exact { hended with
      owned := ⟨hended.owned.only, hended.owned.senders⟩
      kept := nofun
      buffer := List.prefix_rfl }

/-! ### All steps -/

/-- Every move keeps the invariant. -/
theorem move (hb : Ordered b s) {m : Move} (hmove : Moves s m s') : Ordered (b.note s m) s' := by
  cases hmove with
  | work hwork =>
    cases LiveFeed.works hwork with
    | told hlive hoffer htells =>
      rw [Book.note, hlive, Option.elim_some, htells.noteWork_eq hoffer]
      exact hb.told hlive htells
    | proceeded hlive hoffer hproceeds =>
      rw [Book.note, hlive, Option.elim_some]
      exact hb.proceeded hlive hproceeds
  | wake hwake =>
    obtain ⟨t, delay, hlive, hstage, rfl⟩ := LiveFeed.wake_eq_some hwake
    exact hb.updated hlive rfl rfl nofun
  | take hrest htake =>
    rw [Book.note, htake, Option.bind_some]
    cases LiveFeed.takes htake with
    | dropped hqueue hother => exact hb.dropped hqueue
    | accepted hqueue hsubscription => exact hb.accepted _ hqueue
  | start o hrest => exact hb.begun o hrest
  | retire hunderway hawaited => exact hb.retired hunderway hawaited
  | complete hunderway hover =>
    rw [Book.note, hunderway, Option.elim_some]
    exact hb.completed hunderway (hb.quiet hunderway hover)
  | setAll expanded hrest | toggleRow seq hrest =>
    exact { hb with owned := ⟨hb.owned.only, hb.owned.senders⟩ }

/-! ### What follows -/

/-- At most one task is live, and it owns at most one connection. -/
theorem length_live_le (hb : Ordered b s) :
    s.feed.tasks.live.length ≤ 1 ∧ s.feed.tasks.connections.length ≤ 1 := by
  have hlive : s.feed.tasks.live.length ≤ 1 := by
    rw [hb.owned.live_eq]
    exact Option.length_toList_le
  exact ⟨hlive, Nat.le_trans (List.length_filterMap_le _ _) hlive⟩

/-- No connection exists while a task is about to ask for one, and it asks with the chosen filter.
-/
theorem asking (hb : Ordered b s) (hlive : s.feed.tasks.task? h = some t)
    (hstage : t.stage = .connecting) :
    s.feed.tasks.connections = [] ∧ t.filter = b.chosen := by
  have hnone : t.connection? = none := by rw [Task.connection?, hstage]
  refine ⟨?_, (hb.task h t hlive).1⟩
  rw [TaskTable.connections, hb.owned.live_eq, hb.owned.only h t hlive, Option.bind_some, hlive,
    Option.toList_some, List.filterMap_cons_none hnone, List.filterMap_nil]

/-- Only a task in the stage `connecting` asks its client for a connection. -/
theorem asked_of_work (hb : Ordered b s) {f : LiveFeed} {client : Client}
    (hwork : s.feed.work h s.client = some (f, client)) (hasked : client.asked ≠ s.client.asked) :
    s.feed.tasks.connections = [] ∧ client.asked = b.chosen :: s.client.asked := by
  cases LiveFeed.works hwork with
  | told => exact absurd rfl hasked
  | proceeded hlive hoffer hproceeds =>
    cases hproceeds with
    | refused hstage | opened hstage =>
      obtain ⟨hnone, hfilter⟩ := hb.asking hlive hstage
      rw [asked_connect, hfilter]
      exact ⟨hnone, rfl⟩
    | read => exact absurd rfl hasked

/-- The invariant holds in every run of scenes. -/
theorem of_run (filter : Filter) (options : Options) (script : List Attempt)
    (hrun : Watched Book.note (.new filter) ⟨.new filter options, .ofScript script, none⟩ b s) :
    Ordered b s := by
  induction hrun with
  | start => exact .start filter options _ rfl
  | move _ hmove ih => exact ih.move hmove

end Ordered

/-! ### Runs -/

/-- In every run, for every script of the client and every order of the steps:

  - the first step of an operation, the end of the task and the last step are the method of the
    feed, and while no operation is underway the feed is one that a run of acts, which carry out
    each method in one step, leads to;
  - at most one task is live, and at most one connection exists;
  - no task is live while the feed is at rest without a subscription, and none when an operation
    takes its last step, which may spawn the next one;
  - no connection exists when a task asks for one, and it asks with the filter that the feed had
    when the subscription started;
  - each request under the last generation was made with that filter, which is the filter of the
    feed but while a setter is underway;
  - while no operation is underway, every event of the buffer came from a connection that was asked
    for with the filter of the feed. -/
theorem connections_of_run (filter : Filter) (options : Options) (script : List Attempt) {b : Book}
    {s : Scene}
    (h : Watched Book.note (.new filter) ⟨.new filter options, .ofScript script, none⟩ b s) :
    (∀ o : Operation, s.feed.act? o.act = some (o.complete
        (s.feed.subscription.elim (o.prepare s.feed) (o.prepare s.feed).retire))) ∧
      (s.underway = none →
        LiveFeed.Reached (fun _ _ _ => ()) () (.new filter options) s.feed) ∧
      s.feed.tasks.live.length ≤ 1 ∧ s.feed.tasks.connections.length ≤ 1 ∧
      (s.underway = none → s.feed.subscription = none → s.feed.tasks.live = []) ∧
      (∀ s', Moves s .complete s' → s.feed.tasks.live = []) ∧
      (∀ k t, s.feed.tasks.task? k = some t → t.stage = .connecting →
        s.feed.tasks.connections = [] ∧ t.filter = b.chosen) ∧
      (∀ k f client, s.feed.work k s.client = some (f, client) → client.asked ≠ s.client.asked →
        s.feed.tasks.connections = [] ∧ client.asked = b.chosen :: s.client.asked) ∧
      s.client.asked = b.requests.map Request.filter ∧
      (∀ r ∈ b.requests, r.generation = s.feed.generation → r.filter = b.chosen) ∧
      ((∀ u, s.underway = some u → u.operation.refilters = false) → s.feed.filter = b.chosen) ∧
      (s.underway = none →
        s.feed.buffer.events.map Buffered.event <+: b.kept.map Prod.fst ∧
          ∀ p ∈ b.kept, p.2 ∈ b.requests ∧ p.2.filter = s.feed.filter) := by
  have hordered := Ordered.of_run filter options script h
  obtain ⟨hlive, hconnections⟩ := hordered.length_live_le
  refine ⟨fun o => o.act?_act s.feed, ?reached, hlive, hconnections, ?rest, ?complete,
    fun k t => hordered.asking, fun k f client => hordered.asked_of_work, hordered.asked, ?requests,
    hordered.filter, ?events⟩
  case reached =>
    intro hrest
    obtain ⟨f, hreached, hfrom⟩ := h.exists_reached
    rw [Scene.From, hrest] at hfrom
    obtain rfl : s.feed = f := hfrom
    exact hreached
  case rest =>
    intro hrest hsubscription
    have howned := hordered.owned
    rw [Scene.owner, hrest] at howned
    rw [howned.live_eq, hsubscription]
    rfl
  case complete =>
    intro s' hmove
    cases hmove with
    | complete hunderway hover => exact (hordered.quiet hunderway hover).live_eq
  case requests =>
    intro r hr hgeneration
    exact (hordered.requests r hr).2 (hgeneration.trans hordered.generation)
  case events =>
    intro hrest
    refine ⟨hordered.buffer, fun p hp => ?_⟩
    obtain ⟨hmem, hgeneration⟩ := hordered.kept p hp
    refine ⟨hmem, ((hordered.requests p.2 hmem).2 hgeneration).trans ?_⟩
    exact (hordered.filter (by rw [hrest]; nofun)).symm

/-- A task that reads goes on with what arrives. -/
theorem Watched.read {Seen : Type} {note : Seen → Scene → Move → Seen} {seen₀ seen : Seen}
    {s₀ s : Scene} {h : Handle} {t : Task} {c : Push.Connection} {stage : Stage}
    (hrun : Watched note seen₀ s₀ seen s) (hlive : s.feed.tasks.task? h = some t)
    (hstage : t.stage = .reading c) (harrived : Task.arrived? c = some stage) :
    Watched note seen₀ s₀ (note seen s (.work h)) { s with feed := { s.feed with
      tasks := s.feed.tasks.update h { t with stage := stage } } } := by
  have hproceed : t.proceed s.client = some ({ t with stage := stage }, s.client) := by
    rw [Task.proceed, hstage]
    exact congrArg (Option.map _) harrived
  refine hrun.move (.work ?_)
  simp only [LiveFeed.work, hlive, Task.offer?, hstage, hproceed, Option.map_some,
    LiveFeed.stepped_of_goesOn s.feed h (Task.proceeds hproceed).goesOn]

/-- A connection on which nothing arrives, and then one on which an event does. -/
def secondSends : List Attempt := [.opened .silent, .opened ⟨[.message (.text sentEvent)], false⟩]

/-- A run in which the filter changes while the task is about to ask for a connection. The task gets
it while the feed waits for the end of the task. The event comes from the connection of the second
subscription. -/
theorem connections_of_changedFilter :
    ∃ b s, Watched Book.note (.new .empty)
        ⟨.new .empty keepOne, .ofScript secondSends, none⟩ b s ∧
      s.underway = none ∧ s.feed.filter = ⟨.empty, .ofTyped ["VideoMotion"], .empty⟩ ∧
      s.client.asked = [s.feed.filter, .empty] ∧
      s.feed.buffer.events.map Buffered.event = [readEvent] ∧
      s.feed.buffer.events.map Buffered.event <+: b.kept.map Prod.fst ∧
      (∀ p ∈ b.kept, p.2 ∈ b.requests ∧ p.2.filter = s.feed.filter) ∧
      s.feed.tasks.live.length ≤ 1 ∧ s.feed.tasks.connections.length ≤ 1 := by
  have harrived : Task.arrived? ⟨[.message (.text sentEvent)], false⟩
      = some (.passing readEvent ⟨[], false⟩) := by
    simp only [Task.arrived?, event?_sentEvent]
  have hstart : Watched Book.note (.new .empty)
      ⟨.new .empty keepOne, .ofScript secondSends, none⟩ (.new .empty)
      ⟨.new .empty keepOne, .ofScript secondSends, none⟩ := .start
  have hnobody : ∀ h, (none : Option Handle) = some h →
      (LiveFeed.new .empty keepOne).tasks.task? h = none := by
    intro h hsome
    cases hsome
  have hasks := ((hstart.move (.start .subscribe rfl)).move (.complete rfl hnobody)).move
    (.work (h := 0) rfl)
  -- The connection is asked for with the filter of the first subscription.
  have hchanged := (hasks.move (.start (.setCodes ["VideoMotion"]) rfl)).move (.work (h := 0) rfl)
  have hdropped := hchanged.move (.retire rfl rfl)
  have hstarted := hdropped.move (.complete rfl (by intro h hawaited; cases hawaited; rfl))
  have hasked := (hstarted.move (.work (h := 1) rfl)).move (.work (h := 1) rfl)
  have hsent := ((hasked.move (.work (h := 1) rfl)).read (h := 1) rfl rfl harrived).move
    (.work (h := 1) rfl)
  -- One delivery of the first subscription is dropped, three of the second one are taken.
  have htaken := (hsent.move (m := .take ⟨0, 0⟩) (.take rfl rfl)).move (m := .take ⟨0, 0⟩)
    (.take rfl rfl)
  have htaken' := (htaken.move (m := .take ⟨0, 0⟩) (.take rfl rfl)).move (m := .take ⟨0, 0⟩)
    (.take rfl rfl)
  obtain ⟨-, -, hlive, hone, -, -, -, -, -, -, -, hevents⟩ :=
    connections_of_run .empty keepOne secondSends htaken'
  exact ⟨_, _, htaken', rfl, rfl, rfl, rfl, (hevents rfl).1, (hevents rfl).2, hlive, hone⟩

end CameraFeed.Feed
