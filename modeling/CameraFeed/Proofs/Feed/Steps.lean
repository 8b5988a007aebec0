import CameraFeed.Feed.Live
import CameraFeed.Proofs.Feed.TaskTable

/-! # Steps — the steps of tasks and feeds

  Each kind of step has one inductive relation here that lists everything the step can do, so that
  no other module has to unfold `Task.tell`, `Task.proceed`, `LiveFeed.work` or `LiveFeed.take`.
  `Observed` is a run of a feed in which steps of all kinds come in any order, together with the
  records of an observer that notes each of them. -/

namespace CameraFeed.Feed

open Push (Client Connection)

/-! ### Delays -/

theorem Growth.exists_next (g : Growth) : ∃ delay g', g.next = some (delay, g') := by
  rw [Growth.next]
  split
  · exact ⟨_, _, rfl⟩
  · exact ⟨_, _, rfl⟩

/-- The delays of a subscription do not run out. -/
theorem Backoff.exists_next (b : Backoff) : ∃ delay b', b.next = some (delay, b') := by
  obtain ⟨delay, g', hnext⟩ := (if b.hasOpened then b.retry.growth else b.growth).exists_next
  refine ⟨delay, { b with hasOpened := false, growth := g' }, ?_⟩
  rw [Backoff.next, hnext]
  rfl

/-! ### Steps of a task -/

/-- `Tells t m t'`: the task sends `m` and goes on as `t'`. -/
inductive Tells (t : Task) : FeedMessage → Task → Prop where
  | announced (hstage : t.stage = .announcing) :
      Tells t (.state .connecting) { t with stage := .connecting }
  | opened {c : Connection} (hstage : t.stage = .opening c) :
      Tells t (.state .opened) { t with stage := .reading c }
  | passed {e : DeviceEvent} {c : Connection} (hstage : t.stage = .passing e c) :
      Tells t (.event e) { t with stage := .reading c }
  | ended {s : ConnectionState} {delay : Time.Span} {backoff : Backoff}
      (hstage : t.stage = .ending s) (hnext : t.backoff.next = some (delay, backoff)) :
      Tells t (.state s) { t with backoff := backoff, stage := .waiting delay }

/-- After the end of a connection the task waits for the next delay. -/
theorem Task.told_of_ending {t : Task} {s : ConnectionState} {delay : Time.Span}
    {backoff : Backoff} (hstage : t.stage = .ending s)
    (hnext : t.backoff.next = some (delay, backoff)) :
    t.told = { t with backoff := backoff, stage := .waiting delay } := by
  rw [told, hstage, hnext]
  rfl

theorem Task.tells {t : Task} {m : FeedMessage} (h : t.offer? = some m) :
    Tells t m (t.tell true) := by
  have htell : t.tell true = t.told := by
    rw [tell, h]
    rfl
  rw [htell]
  cases hstage : t.stage with
  | announcing =>
    rw [offer?, hstage] at h
    cases h
    rw [told, hstage]
    exact .announced hstage
  | opening c =>
    rw [offer?, hstage] at h
    cases h
    rw [told, hstage]
    exact .opened hstage
  | passing e c =>
    rw [offer?, hstage] at h
    cases h
    rw [told, hstage]
    exact .passed hstage
  | ending s =>
    rw [offer?, hstage] at h
    cases h
    obtain ⟨delay, backoff, hnext⟩ := t.backoff.exists_next
    rw [told_of_ending hstage hnext]
    exact .ended hstage hnext
  | connecting | reading c | waiting delay | finished =>
    rw [offer?, hstage] at h
    cases h

/-- `Arrives c stage`: reading the next arrival on a connection, or its end, leads to a stage. -/
inductive Arrives (c : Connection) : Stage → Prop where
  | ended (harrivals : c.arrivals = []) (hends : c.ends = true) : Arrives c (.ending .closed)
  | failed {fault : Push.Fault} {rest : List Push.Arrival}
      (harrivals : c.arrivals = .failure fault :: rest) : Arrives c (.ending .errored)
  | event {m : Push.Message} {e : DeviceEvent} {rest : List Push.Arrival}
      (harrivals : c.arrivals = .message m :: rest) (hevent : m.event? = some e) :
      Arrives c (.passing e { c with arrivals := rest })
  | noEvent {m : Push.Message} {rest : List Push.Arrival}
      (harrivals : c.arrivals = .message m :: rest) (hevent : m.event? = none) :
      Arrives c (.reading { c with arrivals := rest })

theorem arrives {c : Connection} {stage : Stage} (h : Task.arrived? c = some stage) :
    Arrives c stage := by
  obtain ⟨arrivals, ends⟩ := c
  cases arrivals with
  | nil =>
    cases ends with
    | false => cases h
    | true =>
      cases h
      exact .ended rfl rfl
  | cons a rest =>
    cases a with
    | failure fault =>
      cases h
      exact .failed rfl
    | message m =>
      simp only [Task.arrived?] at h
      cases hevent : m.event? with
      | none =>
        rw [hevent] at h
        cases h
        exact .noEvent rfl hevent
      | some e =>
        rw [hevent] at h
        cases h
        exact .event rfl hevent

/-- `Proceeds t c t' c'`: the task takes a step with its client. -/
inductive Proceeds (t : Task) (c : Client) : Task → Client → Prop where
  | refused {fault : Push.Fault} (hstage : t.stage = .connecting)
      (hconnect : (c.connect t.filter).1 = .refused fault) :
      Proceeds t c { t with stage := .ending .errored } (c.connect t.filter).2
  | opened {connection : Connection} (hstage : t.stage = .connecting)
      (hconnect : (c.connect t.filter).1 = .opened connection) :
      Proceeds t c { t with backoff := t.backoff.opened, stage := .opening connection }
        (c.connect t.filter).2
  | read {connection : Connection} {stage : Stage} (hstage : t.stage = .reading connection)
      (harrives : Arrives connection stage) : Proceeds t c { t with stage := stage } c

theorem Task.proceeds {t t' : Task} {c c' : Client} (h : t.proceed c = some (t', c')) :
    Proceeds t c t' c' := by
  obtain ⟨filter, generation, backoff, stage⟩ := t
  cases stage with
  | connecting =>
    simp only [Task.proceed] at h
    cases hconnect : c.connect filter with
    | mk attempt next =>
      rw [hconnect] at h
      obtain rfl : (c.connect filter).2 = next := congrArg Prod.snd hconnect
      cases attempt with
      | refused fault =>
        cases h
        exact .refused rfl (congrArg Prod.fst hconnect)
      | opened connection =>
        cases h
        exact .opened rfl (congrArg Prod.fst hconnect)
  | reading connection =>
    obtain ⟨stage, harrived, heq⟩ := Option.map_eq_some_iff.mp h
    obtain ⟨rfl, rfl⟩ := Prod.mk.inj heq
    exact .read rfl (arrives harrived)
  | announcing | opening c | passing e c | ending s | waiting delay | finished => cases h

/-- Only a task that waits goes on after its wait. -/
theorem Task.wake?_eq_some {t t' : Task} (h : t.wake? = some t') :
    (∃ delay, t.stage = .waiting delay) ∧ t' = { t with stage := .announcing } := by
  obtain ⟨filter, generation, backoff, stage⟩ := t
  cases stage with
  | waiting delay =>
    cases h
    exact ⟨⟨delay, rfl⟩, rfl⟩
  | announcing | connecting | opening c | reading c | passing e c | ending s | finished => cases h

/-- No step of a task changes its generation. -/
theorem Tells.generation_eq {t t' : Task} {m : FeedMessage} (h : Tells t m t') :
    t'.generation = t.generation := by
  cases h <;> rfl

theorem Proceeds.generation_eq {t t' : Task} {c c' : Client} (h : Proceeds t c t' c') :
    t'.generation = t.generation := by
  cases h <;> rfl

/-- No step finishes a task whose deliveries are received. -/
theorem Tells.goesOn {t t' : Task} {m : FeedMessage} (h : Tells t m t') : t'.stage ≠ .finished := by
  cases h <;> simp

theorem Proceeds.goesOn {t t' : Task} {c c' : Client} (h : Proceeds t c t' c') :
    t'.stage ≠ .finished := by
  cases h with
  | refused | opened => simp
  | read hstage harrives => cases harrives <;> simp

/-! ### Steps of a feed -/

namespace LiveFeed

/-- A task that goes on is kept. -/
theorem stepped_of_goesOn (f : LiveFeed) (h : Handle) {t : Task} (hgoes : t.stage ≠ .finished) :
    f.stepped h t = { f with tasks := f.tasks.update h t } := by
  rw [stepped]
  split
  · next hfinished => exact absurd hfinished hgoes
  · rfl

/-- `Works f h client f' client'`: the task of the handle takes a step. -/
inductive Works (f : LiveFeed) (h : Handle) (client : Client) : LiveFeed → Client → Prop where
  | told {t t' : Task} {m : FeedMessage} (hlive : f.tasks.task? h = some t)
      (hoffer : t.offer? = some m) (htells : Tells t m t') (hroom : f.queue.length < f.capacity) :
      Works f h client { f with
        tasks := f.tasks.update h t'
        queue := f.queue ++ [⟨t.generation, m⟩] } client
  | proceeded {t t' : Task} {client' : Client} (hlive : f.tasks.task? h = some t)
      (hoffer : t.offer? = none) (hproceeds : Proceeds t client t' client') :
      Works f h client { f with tasks := f.tasks.update h t' } client'

theorem works {f f' : LiveFeed} {h : Handle} {client client' : Client}
    (hwork : f.work h client = some (f', client')) : Works f h client f' client' := by
  simp only [work] at hwork
  cases hlive : f.tasks.task? h with
  | none =>
    rw [hlive] at hwork
    cases hwork
  | some t =>
    rw [hlive] at hwork
    cases hoffer : t.offer? with
    | none =>
      simp only [hoffer] at hwork
      obtain ⟨⟨t', next⟩, hproceed, heq⟩ := Option.map_eq_some_iff.mp hwork
      have hproceeds := Task.proceeds hproceed
      obtain ⟨rfl, rfl⟩ := Prod.mk.inj heq
      rw [stepped_of_goesOn f h hproceeds.goesOn]
      exact .proceeded hlive hoffer hproceeds
    | some m =>
      simp only [hoffer] at hwork
      have htells := Task.tells hoffer
      by_cases hroom : f.queue.length < f.capacity
      · rw [if_pos hroom, stepped_of_goesOn _ h htells.goesOn] at hwork
        obtain ⟨rfl, rfl⟩ := Prod.mk.inj (Option.some.inj hwork)
        exact .told hlive hoffer htells hroom
      · rw [if_neg hroom] at hwork
        cases hwork

/-- The end of a delay changes the stage of one task and nothing else. -/
theorem wake_eq_some {f f' : LiveFeed} {h : Handle} (hwake : f.wake h = some f') :
    ∃ t delay, f.tasks.task? h = some t ∧ t.stage = .waiting delay ∧
      f' = { f with tasks := f.tasks.update h { t with stage := .announcing } } := by
  simp only [wake] at hwake
  cases hlive : f.tasks.task? h with
  | none =>
    rw [hlive] at hwake
    cases hwake
  | some t =>
    rw [hlive] at hwake
    obtain ⟨t', hwakes, rfl⟩ := Option.map_eq_some_iff.mp hwake
    obtain ⟨⟨delay, hstage⟩, rfl⟩ := Task.wake?_eq_some hwakes
    exact ⟨t, delay, rfl, hstage, rfl⟩

/-- `Takes f now update f'`: the feed takes the next delivery. -/
inductive Takes (f : LiveFeed) (now : Time.Instant) : Option Update → LiveFeed → Prop where
  | dropped {d : Delivery} {rest : List Delivery} (hqueue : f.queue = d :: rest)
      (hother : d.generation ≠ f.generation ∨ f.subscription = none) :
      Takes f now none { f with queue := rest }
  | accepted {m : FeedMessage} {rest : List Delivery} {h : Handle}
      (hqueue : f.queue = ⟨f.generation, m⟩ :: rest) (hsubscription : f.subscription = some h) :
      Takes f now (some ({ f with queue := rest }.accept now m).1)
        ({ f with queue := rest }.accept now m).2

theorem takes {f f' : LiveFeed} {now : Time.Instant} {update : Option Update}
    (h : f.take now = some (update, f')) : Takes f now update f' := by
  simp only [take] at h
  cases hqueue : f.queue with
  | nil =>
    rw [hqueue] at h
    cases h
  | cons d rest =>
    rw [hqueue] at h
    have hrest : ({ f with queue := rest } : LiveFeed).concerns d = f.concerns d := rfl
    simp only [hrest] at h
    by_cases hconcerns : f.concerns d = true
    · rw [if_pos hconcerns] at h
      obtain ⟨rfl, rfl⟩ := Prod.mk.inj (Option.some.inj h)
      simp only [concerns, Bool.and_eq_true, beq_iff_eq, Option.isSome_iff_exists] at hconcerns
      obtain ⟨hgeneration, handle, hsubscription⟩ := hconcerns
      obtain ⟨generation, m⟩ := d
      obtain rfl : generation = f.generation := hgeneration
      exact .accepted hqueue hsubscription
    · rw [if_neg hconcerns] at h
      obtain ⟨rfl, rfl⟩ := Prod.mk.inj (Option.some.inj h)
      refine .dropped hqueue ?_
      by_cases hgeneration : d.generation = f.generation
      · exact .inr (by simpa [concerns, hgeneration] using hconcerns)
      · exact .inl hgeneration

/-! ### What stays the same -/

section Frame

variable (f : LiveFeed) (now : Time.Instant) (m : FeedMessage)

@[simp] theorem accept_generation : (f.accept now m).2.generation = f.generation := by
  cases m <;> rfl

@[simp] theorem accept_subscription : (f.accept now m).2.subscription = f.subscription := by
  cases m <;> rfl

@[simp] theorem accept_tasks : (f.accept now m).2.tasks = f.tasks := by cases m <;> rfl

@[simp] theorem accept_senders : (f.accept now m).2.senders = f.senders := by cases m <;> rfl

@[simp] theorem accept_task : (f.accept now m).2.task = f.task := by cases m <;> rfl

@[simp] theorem accept_queue : (f.accept now m).2.queue = f.queue := by cases m <;> rfl

/-- Dropping a task changes the fields `tasks` and `senders` only. -/
theorem exists_retire_eq (h : Handle) :
    ∃ tasks senders, f.retire h = { f with tasks := tasks, senders := senders } := by
  rw [retire]
  cases f.tasks.task? h with
  | none => exact ⟨f.tasks, f.senders, rfl⟩
  | some t => exact ⟨_, _, rfl⟩

/-- `teardown` keeps the filter, the generation, the queue, the buffer and the rows. -/
theorem exists_teardown_eq : ∃ tasks senders, f.teardown = { f with
    subscription := none, tasks := tasks, state := .idle, openSince := none,
    senders := senders } := by
  rw [teardown]
  cases hsubscription : f.subscription with
  | none =>
    refine ⟨f.tasks, f.senders, ?_⟩
    rw [calm, hsubscription]
  | some h =>
    obtain ⟨tasks, senders, hretire⟩ := f.release.exists_retire_eq h
    refine ⟨tasks, senders, ?_⟩
    dsimp only
    rw [hretire]
    rfl

@[simp] theorem teardown_state : f.teardown.state = .idle := by
  obtain ⟨tasks, senders, hteardown⟩ := f.exists_teardown_eq
  rw [hteardown]

@[simp] theorem teardown_buffer : f.teardown.buffer = f.buffer := by
  obtain ⟨tasks, senders, hteardown⟩ := f.exists_teardown_eq
  rw [hteardown]

@[simp] theorem teardown_projection : f.teardown.projection = f.projection := by
  obtain ⟨tasks, senders, hteardown⟩ := f.exists_teardown_eq
  rw [hteardown]

/-- `subscribe` keeps the filter and the queue, and the task that it spawns is the one of the
subscription. -/
theorem exists_subscribe_eq : ∃ handle tasks senders, f.subscribe = { f with
    buffer := f.buffer.clear, projection := f.projection.clear, generation := f.generation + 1,
    subscription := some handle, tasks := tasks, state := .idle, openSince := none,
    senders := senders } ∧
      tasks.task? handle = some (.start f.filter (f.generation + 1) f.retry) := by
  obtain ⟨tasks, senders, hteardown⟩ := f.exists_teardown_eq
  rw [subscribe, hteardown]
  exact ⟨_, _, _, rfl, TaskTable.task?_spawn_self⟩

@[simp] theorem subscribe_buffer : f.subscribe.buffer = f.buffer.clear := by
  obtain ⟨handle, tasks, senders, hsubscribe, -⟩ := f.exists_subscribe_eq
  rw [hsubscribe]

@[simp] theorem subscribe_projection : f.subscribe.projection = f.projection.clear := by
  obtain ⟨handle, tasks, senders, hsubscribe, -⟩ := f.exists_subscribe_eq
  rw [hsubscribe]

theorem task_subscribe :
    f.subscribe.task = some (.start f.filter (f.generation + 1) f.retry) := by
  obtain ⟨handle, tasks, senders, hsubscribe, htask⟩ := f.exists_subscribe_eq
  rw [hsubscribe]
  exact htask

end Frame

/-! ### Runs -/

/-- A step of a feed or of one of its tasks. -/
inductive Act where
  /-- The task of the handle takes a step with any client. -/
  | work (h : Handle) (client : Client)
  /-- The delay of the task of the handle ends. -/
  | wake (h : Handle)
  /-- The feed takes the oldest delivery of the queue. -/
  | take (now : Time.Instant)
  | subscribe
  | setFilter (filter : Filter)
  | setDevices (uuids : List String)
  | setCodes (codes : List String)
  | setActions (actions : List String)
  | teardown
  | shutdown
  | setAll (expanded : Bool)
  | toggleRow (seq : Nat)

/-- The feed after a step, if the step can be taken. An operation that waits for the end of a task
is one step here; `Scene` takes it apart. -/
def act? (f : LiveFeed) : Act → Option LiveFeed
  | .work h client => (f.work h client).map Prod.fst
  | .wake h => f.wake h
  | .take now => (f.take now).map Prod.snd
  | .subscribe => some f.subscribe
  | .setFilter filter => some (f.setFilter filter)
  | .setDevices uuids => some (f.setDevices uuids)
  | .setCodes codes => some (f.setCodes codes)
  | .setActions actions => some (f.setActions actions)
  | .teardown => some f.teardown
  | .shutdown => some f.shutdown
  | .setAll expanded => some (f.setAll expanded)
  | .toggleRow seq => some (f.toggleRow seq).2

/-- `Observed note seen₀ f₀ seen f`: some run leads from `f₀` to `f`. An observer that starts with
the record `seen₀` and notes each act, given the feed before it, ends with the record `seen`. -/
inductive Observed {Seen : Type} (note : Seen → LiveFeed → Act → Seen) (seen₀ : Seen)
    (f₀ : LiveFeed) : Seen → LiveFeed → Prop where
  | start : Observed note seen₀ f₀ seen₀ f₀
  | act {seen : Seen} {f f' : LiveFeed} {a : Act} (h : Observed note seen₀ f₀ seen f)
      (hact : f.act? a = some f') : Observed note seen₀ f₀ (note seen f a) f'

end LiveFeed

end CameraFeed.Feed
