import CameraFeed.Feed.TaskTable

/-! # TaskTable — lemmas about spawned tasks

  The effect of `spawn`, `update` and `drop` on the task of each handle, and on the list of live
  tasks. -/

namespace CameraFeed.Feed.TaskTable

variable {r : TaskTable} {h k : Handle} {t t' : Task}

/-! ### Slots -/

theorem lt_of_task? (hlive : r.task? h = some t) : h < r.slots.length := by
  refine Nat.lt_of_not_le fun hge => ?_
  rw [task?, List.getElem?_eq_none hge] at hlive
  cases hlive

/-- The slots before the one of a live task, that slot, and those after it. -/
theorem exists_slots_eq (hlive : r.task? h = some t) :
    ∃ before after, r.slots = before ++ some t :: after ∧ before.length = h := by
  rw [task?, Option.join_eq_some_iff, List.getElem?_eq_some_iff] at hlive
  obtain ⟨hlt, hslot⟩ := hlive
  refine ⟨r.slots.take h, r.slots.drop (h + 1), ?_, List.length_take_of_le (Nat.le_of_lt hlt)⟩
  rw [← hslot, List.getElem_cons_drop, List.take_append_drop]

/-- The handle that `spawn` returns names the new task. -/
@[simp] theorem task?_spawn_self : (r.spawn t).2.task? (r.spawn t).1 = some t := by
  simp [task?, spawn]

/-- Every other handle names what it named before. -/
theorem task?_spawn_of_ne (hne : k ≠ (r.spawn t).1) : (r.spawn t).2.task? k = r.task? k := by
  rw [task?, task?, spawn]
  rcases Nat.lt_or_ge k r.slots.length with hlt | hge
  · rw [List.getElem?_append_left hlt]
  · have hlast : (r.slots ++ [some t]).length ≤ k := by
      rw [List.length_append, List.length_singleton]
      exact Nat.lt_of_le_of_ne hge (Ne.symm hne)
    rw [List.getElem?_eq_none hlast, List.getElem?_eq_none hge]

theorem task?_update_self (hlive : r.task? h = some t) : (r.update h t').task? h = some t' := by
  rw [task?, update, List.getElem?_set_self (lt_of_task? hlive)]
  rfl

theorem task?_update_of_ne (hne : k ≠ h) : (r.update h t').task? k = r.task? k := by
  rw [task?, update, List.getElem?_set_ne hne.symm]
  rfl

/-- A step of one task leaves the tasks live that are. -/
theorem isSome_task?_update (hlive : (r.task? k).isSome = true) :
    ((r.update h t').task? k).isSome = true := by
  by_cases hk : k = h
  · obtain ⟨t, ht⟩ := Option.isSome_iff_exists.mp hlive
    subst hk
    rw [task?_update_self ht]
    rfl
  · rwa [task?_update_of_ne hk]

@[simp] theorem task?_drop_self : (r.drop h).task? h = none := by
  rw [task?, drop, List.getElem?_set_self']
  cases r.slots[h]? <;> rfl

theorem task?_drop_of_ne (hne : k ≠ h) : (r.drop h).task? k = r.task? k := by
  rw [task?, drop, List.getElem?_set_ne hne.symm]
  rfl

/-- Replacing a task by itself changes nothing. -/
theorem update_self (hlive : r.task? h = some t) : r.update h t = r := by
  obtain ⟨slots⟩ := r
  obtain ⟨before, after, hslots, rfl⟩ := exists_slots_eq hlive
  obtain rfl : slots = before ++ some t :: after := hslots
  simp [update]

/-- Of two steps of a task the second one counts. -/
theorem update_update (t t' : Task) : (r.update h t).update h t' = r.update h t' := by
  rw [update, update, List.set_set]
  rfl

/-! ### Live tasks -/

@[simp] theorem live_spawn : (r.spawn t).2.live = r.live ++ [t] := by
  simp [live, spawn]

/-- A step of a task leaves the number of live tasks as it is. -/
theorem length_live_update (hlive : r.task? h = some t) :
    (r.update h t').live.length = r.live.length := by
  obtain ⟨before, after, hslots, rfl⟩ := exists_slots_eq hlive
  simp [live, update, hslots]

/-- There is one live task less after one is dropped. -/
theorem length_live_drop (hlive : r.task? h = some t) :
    (r.drop h).live.length + 1 = r.live.length := by
  obtain ⟨before, after, hslots, rfl⟩ := exists_slots_eq hlive
  simp [live, drop, hslots, Nat.add_assoc]

/-- If no handle but one names a live task, its task is all that is live. -/
theorem live_eq_toList (honly : ∀ k t, r.task? k = some t → k = h) :
    r.live = (r.task? h).toList := by
  obtain ⟨slots⟩ := r
  induction slots generalizing h with
  | nil => rfl
  | cons slot rest ih =>
    cases h with
    | zero =>
      -- The handle behind the last slot stands for no handle of the rest at all.
      have hrest := ih (h := rest.length) fun k t hk => by cases honly (k + 1) t hk
      have hnone : task? ⟨rest⟩ rest.length = none := by simp [task?]
      rw [hnone] at hrest
      cases slot with
      | none => exact hrest
      | some t => exact congrArg (t :: ·) hrest
    | succ h =>
      have hslot : slot = none := by
        cases slot with
        | none => rfl
        | some t => cases honly 0 t rfl
      rw [hslot]
      exact ih fun k t hk => Nat.succ.inj (honly (k + 1) t hk)

/-- If no handle names a live task, nothing is live. -/
theorem live_eq_nil (hnone : ∀ k, r.task? k = none) : r.live = [] := by
  have honly : ∀ k t, r.task? k = some t → k = 0 := by
    intro k t hk
    rw [hnone k] at hk
    cases hk
  rw [live_eq_toList honly, hnone 0]
  rfl

end CameraFeed.Feed.TaskTable
