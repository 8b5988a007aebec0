import CameraFeed.Proofs.Feed.Steps

/-! # Tasks — the live tasks of a run

  A `TaskTable` can hold any number of live tasks, with or without a handle that is kept, and a
  queue is closed when its last sender is gone. In a run of a feed the subscription names the only
  live task: `teardown` drops the task before `spawn` adds the next one. Each live task owns one
  sender, and the feed owns one more, so the queue is never closed. -/

namespace CameraFeed.Feed.LiveFeed

open Push (Client)

variable {f f' : LiveFeed} {owner : Option Handle} {h k : Handle} {t t' : Task}

/-! ### Owned tasks -/

/-- Only the task of `owner` can be live, and the senders are that of the feed and one for each live
task. -/
structure Owned (f : LiveFeed) (owner : Option Handle) : Prop where
  only : ∀ h t, f.tasks.task? h = some t → owner = some h
  senders : f.senders = f.tasks.live.length + 1

namespace Owned

theorem eq_of_live (howned : f.Owned owner) (hlive : f.tasks.task? h = some t)
    (hlive' : f.tasks.task? k = some t') : k = h :=
  Option.some.inj ((howned.only k t' hlive').symm.trans (howned.only h t hlive))

/-- The live tasks are the one of the owner, if it is live. -/
theorem live_eq (howned : f.Owned owner) :
    f.tasks.live = (owner.bind f.tasks.task?).toList := by
  cases owner with
  | none =>
    refine TaskTable.live_eq_nil fun k => ?_
    cases hk : f.tasks.task? k with
    | none => rfl
    | some t => cases howned.only k t hk
  | some h =>
    exact TaskTable.live_eq_toList fun k t hk => (Option.some.inj (howned.only k t hk)).symm

/-- A step of a task keeps both. -/
theorem update (howned : f.Owned owner) (hlive : f.tasks.task? h = some t) (t' : Task)
    (queue : List Delivery) :
    Owned { f with tasks := f.tasks.update h t', queue := queue } owner where
  only := by
    intro k u hk
    by_cases hkh : k = h
    · subst hkh
      exact howned.only k t hlive
    · exact howned.only k u ((TaskTable.task?_update_of_ne hkh).symm.trans hk)
  senders := by
    show f.senders = (f.tasks.update h t').live.length + 1
    rw [TaskTable.length_live_update hlive]
    exact howned.senders

/-- After a step of a task, that task is the only live one. -/
theorem eq_of_update (howned : f.Owned owner) (hlive : f.tasks.task? h = some t) {u : Task}
    (hupdate : (f.tasks.update h t').task? k = some u) : k = h ∧ u = t' := by
  by_cases hkh : k = h
  · subst hkh
    rw [TaskTable.task?_update_self hlive] at hupdate
    exact ⟨rfl, (Option.some.inj hupdate).symm⟩
  · rw [TaskTable.task?_update_of_ne hkh] at hupdate
    exact absurd (howned.eq_of_live hlive hupdate) hkh

/-- If no task is live, it makes no difference which one could be. -/
theorem of_none (howned : f.Owned none) (owner : Option Handle) : f.Owned owner where
  only := by
    intro k t hk
    cases howned.only k t hk
  senders := howned.senders

/-- Once the task of its owner is dropped, no task is live. -/
theorem retire (howned : f.Owned (some h)) : (f.retire h).Owned none := by
  rw [LiveFeed.retire]
  cases hlive : f.tasks.task? h with
  -- The task was dropped before, and no other one could be live.
  | none =>
    refine ⟨fun k t hk => ?_, howned.senders⟩
    obtain rfl := Option.some.inj (howned.only k t hk)
    rw [hlive] at hk
    cases hk
  | some t =>
    refine ⟨fun k u hk => ?_, ?_⟩
    · have hk' : (f.tasks.drop h).task? k = some u := hk
      by_cases hkh : k = h
      · subst hkh
        rw [TaskTable.task?_drop_self] at hk'
        cases hk'
      · rw [TaskTable.task?_drop_of_ne hkh] at hk'
        exact absurd (howned.eq_of_live hlive hk') hkh
    -- One live task less, and one sender less.
    · have hsenders := howned.senders
      have hdrop := TaskTable.length_live_drop hlive
      show f.senders - 1 = (f.tasks.drop h).live.length + 1
      omega

/-- A task that is spawned while none is live is the only one. -/
theorem spawn (howned : f.Owned none) : f.spawn.Owned f.spawn.subscription where
  only := by
    intro k t hk
    by_cases hnew : k = f.tasks.slots.length
    · rw [hnew]
      rfl
    · cases howned.only k t ((TaskTable.task?_spawn_of_ne hnew).symm.trans hk)
  senders := by
    show f.senders + 1 = (f.tasks.spawn _).2.live.length + 1
    rw [TaskTable.live_spawn, List.length_append, howned.senders]
    rfl

end Owned

/-! ### Tidy feeds -/

/-- The subscription names the only live task, and that task is live. -/
structure Tidy (f : LiveFeed) : Prop where
  owned : f.Owned f.subscription
  runs : ∀ h, f.subscription = some h → (f.tasks.task? h).isSome = true

namespace Tidy

theorem start (filter : Filter) (options : Options) : (LiveFeed.new filter options).Tidy where
  owned := ⟨nofun, rfl⟩
  runs := nofun

/-- `Tidy` depends on the fields `subscription`, `tasks` and `senders` only. -/
theorem of_same (htidy : f.Tidy) (hsubscription : f'.subscription = f.subscription)
    (htasks : f'.tasks = f.tasks) (hsenders : f'.senders = f.senders) : f'.Tidy where
  owned := by
    refine ⟨?_, ?_⟩
    · rw [htasks, hsubscription]
      exact htidy.owned.only
    · rw [hsenders, htasks]
      exact htidy.owned.senders
  runs := by
    rw [htasks, hsubscription]
    exact htidy.runs

theorem subscription_eq (htidy : f.Tidy) (hlive : f.tasks.task? h = some t) :
    f.subscription = some h := htidy.owned.only h t hlive

theorem task_eq (htidy : f.Tidy) (hlive : f.tasks.task? h = some t) : f.task = some t := by
  rw [task, htidy.subscription_eq hlive]
  exact hlive

/-- The feed has a task exactly as long as it has a subscription. -/
theorem isSome_task (htidy : f.Tidy) : f.task.isSome = f.subscription.isSome := by
  rw [task]
  cases hsubscription : f.subscription with
  | none => rfl
  | some h => exact htidy.runs h hsubscription

theorem live_eq (htidy : f.Tidy) : f.tasks.live = f.task.toList := htidy.owned.live_eq

/-- The queue has a sender, so waiting for a delivery never ends with none. -/
theorem isClosed_eq_false (htidy : f.Tidy) : f.isClosed = false := by
  -- The sender of the feed itself is never dropped.
  rw [isClosed, htidy.owned.senders]
  exact Bool.and_false _

/-- The task after its step is the task of the subscription. -/
theorem task_update (htidy : f.Tidy) (hlive : f.tasks.task? h = some t) (t' : Task)
    (queue : List Delivery) :
    task { f with tasks := f.tasks.update h t', queue := queue } = some t' := by
  show f.subscription.bind (f.tasks.update h t').task? = some t'
  rw [htidy.subscription_eq hlive]
  exact TaskTable.task?_update_self hlive

theorem update (htidy : f.Tidy) (hlive : f.tasks.task? h = some t) (t' : Task)
    (queue : List Delivery) :
    Tidy { f with tasks := f.tasks.update h t', queue := queue } where
  owned := htidy.owned.update hlive t' queue
  runs := fun k hk => TaskTable.isSome_task?_update (htidy.runs k hk)

/-- After `teardown` there is neither a subscription nor a live task. -/
theorem teardown (htidy : f.Tidy) : f.teardown.Owned none ∧ f.teardown.subscription = none := by
  obtain ⟨tasks, senders, hteardown⟩ := f.exists_teardown_eq
  refine ⟨?_, by rw [hteardown]⟩
  have howned := htidy.owned
  rw [LiveFeed.teardown]
  cases hsubscription : f.subscription with
  | none =>
    rw [hsubscription] at howned
    exact ⟨howned.only, howned.senders⟩
  | some h =>
    rw [hsubscription] at howned
    -- Without its handle the feed is not tidy until the task is dropped.
    have hreleased : f.release.Owned (some h) := ⟨howned.only, howned.senders⟩
    exact ⟨hreleased.retire.only, hreleased.retire.senders⟩

/-- No task is live after `teardown`. -/
theorem live_teardown (htidy : f.Tidy) : f.teardown.tasks.live = [] := htidy.teardown.1.live_eq

theorem ended (htidy : f.Tidy) : f.teardown.Tidy := by
  obtain ⟨howned, hnone⟩ := htidy.teardown
  refine ⟨?_, ?_⟩
  · rw [hnone]
    exact howned
  · intro h hsome
    rw [hnone] at hsome
    cases hsome

theorem subscribe (htidy : f.Tidy) : f.subscribe.Tidy where
  owned := Owned.spawn ⟨htidy.teardown.1.only, htidy.teardown.1.senders⟩
  runs := by
    rintro _ ⟨⟩
    exact Option.isSome_iff_exists.mpr ⟨_, TaskTable.task?_spawn_self⟩

/-- Every step leads from a tidy feed to a tidy one. -/
theorem act (htidy : f.Tidy) {a : Act} (hact : f.act? a = some f') : f'.Tidy := by
  cases a with
  | work k client =>
    obtain ⟨⟨_, client'⟩, hwork, rfl⟩ := Option.map_eq_some_iff.mp hact
    cases works hwork with
    | told hlive => exact htidy.update hlive _ _
    | proceeded hlive => exact htidy.update hlive _ f.queue
  | wake k =>
    obtain ⟨t, delay, hlive, -, rfl⟩ := wake_eq_some hact
    exact htidy.update hlive _ f.queue
  | take now =>
    obtain ⟨⟨update, _⟩, htake, rfl⟩ := Option.map_eq_some_iff.mp hact
    cases takes htake with
    | dropped => exact htidy.of_same rfl rfl rfl
    | accepted =>
      exact htidy.of_same (accept_subscription ..) (accept_tasks ..) (accept_senders ..)
  | subscribe | setFilter filter | setDevices uuids | setCodes codes | setActions actions =>
    obtain rfl := Option.some.inj hact
    exact Tidy.subscribe (htidy.of_same rfl rfl rfl)
  | teardown =>
    obtain rfl := Option.some.inj hact
    exact htidy.ended
  | shutdown =>
    obtain rfl := Option.some.inj hact
    exact htidy.ended.of_same rfl rfl rfl
  | setAll expanded | toggleRow seq =>
    obtain rfl := Option.some.inj hact
    exact htidy.of_same rfl rfl rfl

/-- Every feed that a run leads to is tidy. -/
theorem of_run {Seen : Type} {note : Seen → LiveFeed → Act → Seen} {seen₀ seen : Seen}
    {filter : Filter} {options : Options}
    (hrun : Observed note seen₀ (.new filter options) seen f) : f.Tidy := by
  induction hrun with
  | start => exact .start filter options
  | act _ hact ih => exact ih.act hact

end Tidy

end CameraFeed.Feed.LiveFeed
