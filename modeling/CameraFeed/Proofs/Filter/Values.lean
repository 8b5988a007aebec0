import CameraFeed.Filter.Basic
import Mathlib.Data.List.Sort

/-! # Values — what is in a set of values

  Which values are in a set that was made by one of the operations, and that the values of a set,
  put into an empty one in their order, make the same set again. Sets with the same values are the
  same, so unions do not depend on how they are put together. -/

namespace CameraFeed.Filter

/-- A value above all others is placed at the end. -/
theorem place_of_forall_lt {value : String} {vs : List String} (h : ∀ v ∈ vs, v < value) :
    place value vs = vs ++ [value] := by
  induction vs with
  | nil => rfl
  | cons v rest ih =>
    have hv : v < value := h v List.mem_cons_self
    have hless : ¬ value < v := fun hlt => String.lt_irrefl v (String.lt_trans hv hlt)
    have hne : value ≠ v := by
      rintro rfl
      exact String.lt_irrefl value hv
    rw [place, if_neg hless, if_neg hne, ih fun w hw => h w (List.mem_cons_of_mem _ hw)]
    rfl

namespace ValueSet

variable {s t : ValueSet} {v : String}

theorem eq_of_values (h : s.values = t.values) : s = t := by
  cases s
  cases t
  cases h
  rfl

theorem isEmpty_iff : s.isEmpty = true ↔ s.values = [] := List.isEmpty_iff

theorem mem_insert {value : String} : v ∈ (s.insert value).values ↔ v = value ∨ v ∈ s.values :=
  mem_place value v s.values

theorem mem_insertAll {values : List String} :
    v ∈ (s.insertAll values).values ↔ v ∈ s.values ∨ v ∈ values := by
  induction values generalizing s with
  | nil => simp [insertAll]
  | cons value rest ih =>
    rw [insertAll, List.foldl_cons]
    refine ih.trans ?_
    rw [mem_insert, List.mem_cons]
    constructor
    · rintro ((h | h) | h) <;> simp [h]
    · rintro (h | h | h) <;> simp [h]

theorem mem_union : v ∈ (s.union t).values ↔ v ∈ s.values ∨ v ∈ t.values := mem_insertAll

theorem mem_ofTyped {values : List String} :
    v ∈ (ofTyped values).values ↔ v ∈ values.map Text.trimmed ∧ v ≠ "" := by
  rw [ofTyped, mem_insertAll]
  simp [empty, List.mem_filter]

/-! ### Sets with the same values -/

/-- A set is known by what is in it. -/
theorem eq_of_mem_iff (h : ∀ v, v ∈ s.values ↔ v ∈ t.values) : s = t :=
  eq_of_values (s.sorted.eq_of_mem_iff t.sorted h)

theorem union_comm (s t : ValueSet) : s.union t = t.union s := by
  apply eq_of_mem_iff
  intro v
  rw [mem_union, mem_union, or_comm]

theorem union_assoc (r s t : ValueSet) : (r.union s).union t = r.union (s.union t) := by
  apply eq_of_mem_iff
  intro v
  simp only [mem_union, or_assoc]

theorem union_self (s : ValueSet) : s.union s = s := by
  apply eq_of_mem_iff
  intro v
  rw [mem_union, or_self]

/-- A value more in one of two sets is a value more in both together. -/
theorem insert_union (s t : ValueSet) (value : String) :
    (s.union t).insert value = s.union (t.insert value) := by
  apply eq_of_mem_iff
  intro v
  simp only [mem_insert, mem_union, or_left_comm]

/-- Typed values in a row are the values of both parts. -/
theorem ofTyped_append (values more : List String) :
    ofTyped (values ++ more) = (ofTyped values).union (ofTyped more) := by
  apply eq_of_mem_iff
  intro v
  simp only [mem_union, mem_ofTyped, List.map_append, List.mem_append, or_and_right]

/-- It does not matter in which order values are typed, and how often. -/
theorem ofTyped_of_mem_iff {values others : List String} (h : ∀ v, v ∈ values ↔ v ∈ others) :
    ofTyped values = ofTyped others := by
  apply eq_of_mem_iff
  intro v
  simp only [mem_ofTyped, List.mem_map, h]

/-! ### Empty values -/

/-- No value is empty. -/
def Filled (s : ValueSet) : Prop := "" ∉ s.values

theorem filled_empty : empty.Filled := List.not_mem_nil

theorem Filled.insert (hs : s.Filled) {value : String} (hvalue : value ≠ "") :
    (s.insert value).Filled := by
  intro h
  rcases mem_insert.mp h with hnew | hold
  · exact hvalue hnew.symm
  · exact hs hold

theorem Filled.union (hs : s.Filled) (ht : t.Filled) : (s.union t).Filled := by
  intro h
  rcases mem_union.mp h with hleft | hright
  · exact hs hleft
  · exact ht hright

theorem filled_ofTyped (values : List String) : (ofTyped values).Filled := by
  intro h
  exact (mem_ofTyped.mp h).2 rfl

/-! ### Order -/

/-- Values that go on increasing are added at the end. -/
theorem values_insertAll {values : List String} (h : (s.values ++ values).Pairwise (· < ·)) :
    (s.insertAll values).values = s.values ++ values := by
  induction values generalizing s with
  | nil => simp [insertAll]
  | cons value rest ih =>
    have hlast : (s.insert value).values = s.values ++ [value] :=
      place_of_forall_lt fun v hv => (List.pairwise_append.mp h).2.2 v hv value List.mem_cons_self
    have hsplit : s.values ++ value :: rest = (s.insert value).values ++ rest := by simp [hlast]
    rw [hsplit] at h ⊢
    exact ih h

/-- The values of a set make the same set again. -/
theorem insertAll_values (s : ValueSet) : empty.insertAll s.values = s :=
  eq_of_values (values_insertAll s.sorted)

end ValueSet

end CameraFeed.Filter
