import CameraFeed.Proofs.Feed.Schedule
import CameraFeed.Proofs.Feed.Tasks

/-! # Operations — the steps of an operation that waits for the end of a task

  An operation that ends a subscription is not one step. The feed replaces its filter, takes the
  handle out of `subscription` and aborts the task; it then waits until the task is dropped, and
  only after that goes on with `calm`, `discard` and `spawn`. Until the task is dropped it can still
  take steps, with the filter it was started with, while the feed takes none.

  A `Scene` is a feed with the client of all its tasks, at rest or while an operation is underway.
  `Watched.exists_reached` says that the acts, which do an operation in one step, lead to every feed
  that a run of scenes leads to. -/

namespace CameraFeed.Feed

open Push (Client)

/-! ### Operations -/

/-- The feed with a filter and a handle in the place of its own. -/
def LiveFeed.given (f : LiveFeed) (filter : Filter) (subscription : Option Handle) : LiveFeed :=
  { f with filter := filter, subscription := subscription }

/-- The methods of a feed that end its subscription. -/
inductive Operation where
  | subscribe
  | setFilter (filter : Filter)
  | setDevices (uuids : List String)
  | setCodes (codes : List String)
  | setActions (actions : List String)
  | teardown
  | shutdown

namespace Operation

/-- The filter of the feed from the first step of the operation on. -/
def refilter : Operation → Filter → Filter
  | .setFilter filter, _ => filter
  | .setDevices uuids, filter => { filter with devices := .ofTyped uuids }
  | .setCodes codes, filter => { filter with codes := .ofTyped codes }
  | .setActions actions, filter => { filter with actions := .ofTyped actions }
  | .subscribe, filter | .teardown, filter | .shutdown, filter => filter

/-- The operation is one of the four setters of the filter. -/
def refilters : Operation → Bool
  | .setFilter _ | .setDevices _ | .setCodes _ | .setActions _ => true
  | .subscribe | .teardown | .shutdown => false

/-- The feed after the first step of the operation. It has no handle any more, and its task table is
as it was. -/
def prepare (o : Operation) (f : LiveFeed) : LiveFeed := f.given (o.refilter f.filter) none

/-- The feed after the last step of the operation, which comes after the end of the task. -/
def complete : Operation → LiveFeed → LiveFeed
  | .teardown, f => f.calm
  | .shutdown, f => f.calm.discard
  | _, f => f.calm.discard.spawn

/-- The operation as one act. -/
def act : Operation → LiveFeed.Act
  | .subscribe => .subscribe
  | .setFilter filter => .setFilter filter
  | .setDevices uuids => .setDevices uuids
  | .setCodes codes => .setCodes codes
  | .setActions actions => .setActions actions
  | .teardown => .teardown
  | .shutdown => .shutdown

theorem refilter_of_not_refilters {o : Operation} (h : o.refilters = false) (filter : Filter) :
    o.refilter filter = filter := by
  cases o with
  | subscribe | teardown | shutdown => rfl
  | setFilter filter | setDevices uuids | setCodes codes | setActions actions => cases h

/-- The act of an operation is its first step, the end of the task of the subscription, if there is
one, and its last step. -/
theorem act?_act (o : Operation) (f : LiveFeed) :
    f.act? o.act = some (o.complete (f.subscription.elim (o.prepare f) (o.prepare f).retire)) := by
  obtain ⟨retry, capacity, filter, buffer, projection, generation, subscription, tasks, state,
    openSince, queue, senders⟩ := f
  cases subscription with
  | none => cases o <;> rfl
  | some h => cases o <;> rfl

end Operation

/-! ### Scenes -/

/-- An operation after its first step. -/
structure Underway where
  operation : Operation
  /-- The handle of the task that was aborted, if there was one. -/
  awaited : Option Handle

/-- A feed with the client that its tasks ask for connections. -/
structure Scene where
  feed : LiveFeed
  client : Client
  /-- The operation that was started and is not complete. -/
  underway : Option Underway

/-- A step in a scene. -/
inductive Move where
  /-- The task of the handle takes a step. -/
  | work (h : Handle)
  /-- The delay of the task of the handle ends. -/
  | wake (h : Handle)
  /-- The feed takes the oldest delivery of the queue. -/
  | take (now : Time.Instant)
  /-- The first step of an operation, which aborts the task of the subscription. -/
  | start (o : Operation)
  /-- The task that was aborted is dropped. -/
  | retire
  /-- The last step of an operation. -/
  | complete
  | setAll (expanded : Bool)
  | toggleRow (seq : Nat)

/-- `Moves s m s'`: the step `m` leads from one scene to the next. While an operation is underway
the feed takes no step, and every task that is live can take one. -/
inductive Moves (s : Scene) : Move → Scene → Prop where
  | work {h : Handle} {f : LiveFeed} {c : Client} (hwork : s.feed.work h s.client = some (f, c)) :
      Moves s (.work h) { s with feed := f, client := c }
  | wake {h : Handle} {f : LiveFeed} (hwake : s.feed.wake h = some f) :
      Moves s (.wake h) { s with feed := f }
  | take {now : Time.Instant} {update : Option Update} {f : LiveFeed} (hrest : s.underway = none)
      (htake : s.feed.take now = some (update, f)) : Moves s (.take now) { s with feed := f }
  | start (o : Operation) (hrest : s.underway = none) :
      Moves s (.start o)
        { s with feed := o.prepare s.feed, underway := some ⟨o, s.feed.subscription⟩ }
  | retire {u : Underway} {h : Handle} (hunderway : s.underway = some u)
      (hawaited : u.awaited = some h) : Moves s .retire { s with feed := s.feed.retire h }
  | complete {u : Underway} (hunderway : s.underway = some u)
      (hover : ∀ h, u.awaited = some h → s.feed.tasks.task? h = none) :
      Moves s .complete { s with feed := u.operation.complete s.feed, underway := none }
  | setAll (expanded : Bool) (hrest : s.underway = none) :
      Moves s (.setAll expanded) { s with feed := s.feed.setAll expanded }
  | toggleRow (seq : Nat) (hrest : s.underway = none) :
      Moves s (.toggleRow seq) { s with feed := (s.feed.toggleRow seq).2 }

/-- `Watched note seen₀ s₀ seen s`: some run leads from `s₀` to `s`. An observer that starts with
the record `seen₀` and notes each move, given the scene before it, ends with the record `seen`. -/
inductive Watched {Seen : Type} (note : Seen → Scene → Move → Seen) (seen₀ : Seen) (s₀ : Scene) :
    Seen → Scene → Prop where
  | start : Watched note seen₀ s₀ seen₀ s₀
  | move {seen : Seen} {s s' : Scene} {m : Move} (h : Watched note seen₀ s₀ seen s)
      (hmove : Moves s m s') : Watched note seen₀ s₀ (note seen s m) s'

/-! ### Steps of a task while an operation is underway -/

namespace LiveFeed

variable (f : LiveFeed) (h : Handle) (filter : Filter) (subscription : Option Handle)

/-- The steps of a task depend neither on the filter of the feed nor on its handle. -/
theorem retire_given : (f.given filter subscription).retire h
    = (f.retire h).given filter subscription := by
  have hsame : (f.given filter subscription).tasks = f.tasks := rfl
  rw [retire, retire, hsame]
  cases f.tasks.task? h <;> rfl

theorem stepped_given (t : Task) : (f.given filter subscription).stepped h t
    = (f.stepped h t).given filter subscription := by
  rw [stepped, stepped]
  cases t.stage with
  | finished => exact f.retire_given h filter subscription
  | announcing | connecting | opening c | reading c | passing e c | ending s | waiting delay => rfl

theorem work_given (client : Client) : (f.given filter subscription).work h client
    = (f.work h client).map fun next => (next.1.given filter subscription, next.2) := by
  have hsame : (f.given filter subscription).tasks = f.tasks := rfl
  have hqueue : (f.given filter subscription).queue = f.queue := rfl
  have hcapacity : (f.given filter subscription).capacity = f.capacity := rfl
  rw [work, work, hsame, hqueue, hcapacity]
  cases f.tasks.task? h with
  | none => rfl
  | some t =>
    dsimp only
    cases t.offer? with
    | none => simp only [Option.map_map, Function.comp_def, stepped_given]
    | some m =>
      have hstepped := stepped_given { f with queue := f.queue ++ [⟨t.generation, m⟩] } h filter
        subscription (t.tell true)
      dsimp only
      split
      · exact congrArg (fun next => some (next, client)) hstepped
      · rfl

theorem wake_given : (f.given filter subscription).wake h
    = (f.wake h).map fun next => next.given filter subscription := by
  have hsame : (f.given filter subscription).tasks = f.tasks := rfl
  rw [wake, wake, hsame]
  cases f.tasks.task? h with
  | none => rfl
  | some t =>
    have hstepped : (f.given filter subscription).stepped h
        = fun t => (f.stepped h t).given filter subscription :=
      funext (f.stepped_given h filter subscription)
    simp only [Option.map_map, hstepped, Function.comp_def]

variable {f h}

theorem Works.filter_eq {f' : LiveFeed} {c c' : Client} (hworks : Works f h c f' c') :
    f'.filter = f.filter := by
  cases hworks <;> rfl

theorem Works.subscription_eq {f' : LiveFeed} {c c' : Client} (hworks : Works f h c f' c') :
    f'.subscription = f.subscription := by
  cases hworks <;> rfl

/-- A task that was dropped is not dropped again. -/
theorem retire_retire : (f.retire h).retire h = f.retire h := by
  cases hlive : f.tasks.task? h with
  | none => simp only [retire, hlive]
  | some t => simp only [retire, hlive, TaskTable.task?_drop_self]

end LiveFeed

namespace Operation

variable {o : Operation} {f f' : LiveFeed} {h : Handle}

/-- A step of a task after `prepare` could as well come before it. -/
theorem work_prepare {c c' : Client} (hwork : (o.prepare f).work h c = some (f', c')) :
    ∃ g, f.work h c = some (g, c') ∧ f' = o.prepare g ∧ g.subscription = f.subscription := by
  rw [prepare, LiveFeed.work_given] at hwork
  obtain ⟨⟨g, c''⟩, hwork', heq⟩ := Option.map_eq_some_iff.mp hwork
  obtain ⟨rfl, rfl⟩ := Prod.mk.inj heq
  have hworks := LiveFeed.works hwork'
  refine ⟨g, hwork', ?_, hworks.subscription_eq⟩
  rw [prepare, hworks.filter_eq]

theorem wake_prepare (hwake : (o.prepare f).wake h = some f') :
    ∃ g, f.wake h = some g ∧ f' = o.prepare g ∧ g.subscription = f.subscription := by
  rw [prepare, LiveFeed.wake_given] at hwake
  obtain ⟨g, hwake', rfl⟩ := Option.map_eq_some_iff.mp hwake
  obtain ⟨t, delay, -, -, rfl⟩ := LiveFeed.wake_eq_some hwake'
  exact ⟨_, hwake', rfl, rfl⟩

/-- Once the task of a tidy feed is dropped, no task can take a step. -/
theorem task?_retire_prepare (htidy : f.Tidy) (hsubscription : f.subscription = some h)
    (k : Handle) : ((o.prepare f).retire h).tasks.task? k = none := by
  have howned : (o.prepare f).Owned (some h) :=
    ⟨hsubscription ▸ htidy.owned.only, htidy.owned.senders⟩
  cases hlive : ((o.prepare f).retire h).tasks.task? k with
  | none => rfl
  | some t => cases howned.retire.only k t hlive

end Operation

/-! ### Runs of scenes -/

/-- `s.From f`: the scene is at rest with the feed `f`, or the operation that is underway was
started on `f`, whose task may have been dropped since. -/
def Scene.From (s : Scene) (f : LiveFeed) : Prop :=
  match s.underway with
  | none => s.feed = f
  | some u => u.awaited = f.subscription ∧
      (s.feed = u.operation.prepare f ∨
        ∃ h, f.subscription = some h ∧ s.feed = (u.operation.prepare f).retire h)

/-- In every run of scenes, the feed is one that a run of acts leads to, but for the operation that
is underway. -/
theorem Watched.exists_reached {Seen Known : Type} {note : Seen → Scene → Move → Seen}
    {known : Known → LiveFeed → LiveFeed.Act → Known} {seen₀ seen : Seen} {known₀ : Known}
    {filter : Filter} {options : Options} {client : Client} {s : Scene}
    (h : Watched note seen₀ ⟨.new filter options, client, none⟩ seen s) :
    ∃ f, LiveFeed.Reached known known₀ (.new filter options) f ∧ s.From f := by
  -- By induction on the run. A step of a task after the first step of an operation is put before
  -- the operation, and the operation is carried out as one act by its last step.
  induction h with
  | start => exact ⟨_, ⟨known₀, .start⟩, rfl⟩
  | @move seen s s' m _ hmove ih =>
    obtain ⟨f, hreached, hfrom⟩ := ih
    have htidy : f.Tidy := LiveFeed.Tidy.of_run hreached.choose_spec
    obtain ⟨feed, client, underway⟩ := s
    cases hmove with
    | @work k f' c' hwork =>
      cases underway with
      | none =>
        obtain rfl : feed = f := hfrom
        exact ⟨_, hreached.act (.work k client) (by rw [LiveFeed.act?, hwork, Option.map_some]),
          rfl⟩
      | some u =>
        obtain ⟨hawaited, rfl | ⟨h, hsubscription, rfl⟩⟩ := hfrom
        · obtain ⟨g, hwork', heq, hkeeps⟩ := Operation.work_prepare hwork
          exact ⟨g, hreached.act (.work k client) (by rw [LiveFeed.act?, hwork', Option.map_some]),
            hawaited.trans hkeeps.symm, .inl heq⟩
        -- The only task is dropped, so none can take a step.
        · have hnone := Operation.task?_retire_prepare (o := u.operation) htidy hsubscription k
          cases LiveFeed.works hwork with
          | told hlive | proceeded hlive =>
            rw [hnone] at hlive
            cases hlive
    | @wake k f' hwake =>
      cases underway with
      | none =>
        obtain rfl : feed = f := hfrom
        exact ⟨_, hreached.act (.wake k) hwake, rfl⟩
      | some u =>
        obtain ⟨hawaited, rfl | ⟨h, hsubscription, rfl⟩⟩ := hfrom
        · obtain ⟨g, hwake', heq, hkeeps⟩ := Operation.wake_prepare hwake
          exact ⟨g, hreached.act (.wake k) hwake', hawaited.trans hkeeps.symm, .inl heq⟩
        · obtain ⟨t, delay, hlive, -⟩ := LiveFeed.wake_eq_some hwake
          have hnone := Operation.task?_retire_prepare (o := u.operation) htidy hsubscription k
          rw [hnone] at hlive
          cases hlive
    | @take now update f' hrest htake =>
      obtain rfl : underway = none := hrest
      obtain rfl : feed = f := hfrom
      exact ⟨_, hreached.act (.take now) (by rw [LiveFeed.act?, htake, Option.map_some]), rfl⟩
    | start o hrest =>
      obtain rfl : underway = none := hrest
      obtain rfl : feed = f := hfrom
      exact ⟨feed, hreached, rfl, .inl rfl⟩
    | @retire u h hunderway hawaited =>
      obtain rfl : underway = some u := hunderway
      obtain ⟨hsame, rfl | ⟨k, hsubscription, rfl⟩⟩ := hfrom
      · exact ⟨f, hreached, hsame, .inr ⟨h, hsame.symm.trans hawaited, rfl⟩⟩
      · obtain rfl : k = h :=
          Option.some.inj (hsubscription.symm.trans (hsame.symm.trans hawaited))
        exact ⟨f, hreached, hsame, .inr ⟨k, hsubscription, LiveFeed.retire_retire⟩⟩
    | @complete u hunderway hover =>
      obtain rfl : underway = some u := hunderway
      obtain ⟨hsame, hfeed⟩ := hfrom
      refine ⟨_, hreached.act u.operation.act (u.operation.act?_act f), ?_⟩
      show u.operation.complete feed = u.operation.complete _
      cases hsubscription : f.subscription with
      | none =>
        rcases hfeed with rfl | ⟨k, hsome, -⟩
        · rfl
        · rw [hsubscription] at hsome
          cases hsome
      | some h =>
        rcases hfeed with rfl | ⟨k, hsome, rfl⟩
        -- The operation waits for the end of the task, so that it was live no more.
        · have hnone := hover h (hsame.trans hsubscription)
          rw [Option.elim_some, LiveFeed.retire, hnone]
        · obtain rfl := Option.some.inj (hsubscription.symm.trans hsome)
          rfl
    | setAll expanded hrest =>
      obtain rfl : underway = none := hrest
      obtain rfl : feed = f := hfrom
      exact ⟨_, hreached.act (.setAll expanded) rfl, rfl⟩
    | toggleRow seq hrest =>
      obtain rfl : underway = none := hrest
      obtain rfl : feed = f := hfrom
      exact ⟨_, hreached.act (.toggleRow seq) rfl, rfl⟩

end CameraFeed.Feed
