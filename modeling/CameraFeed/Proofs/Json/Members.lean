import CameraFeed.Json.Basic
import Mathlib.Data.List.Perm.Basic
import Mathlib.Data.String.Basic

/-! # Members — members in whatever order they come

  Members that are put in one by one come to stand in the order of their names. So an object is the
  same however its members were listed, as long as no name is given twice. -/

namespace CameraFeed.Json

/-- The names go up. -/
def Sorted (members : List (String × Json)) : Prop := members.Pairwise fun m m' => m.1 < m'.1

/-- Members are put in one after another. -/
def insertAll (members pairs : List (String × Json)) : List (String × Json) :=
  members.foldl (fun pairs m => insertMember m.1 m.2 pairs) pairs

variable {name : String} {value : Json} {pairs : List (String × Json)}

theorem mem_insertMember {m : String × Json} (h : m ∈ insertMember name value pairs) :
    m = (name, value) ∨ m ∈ pairs := by
  induction pairs with
  | nil => exact .inl (List.mem_singleton.mp h)
  | cons pair pairs ih =>
    obtain ⟨n, v⟩ := pair
    unfold insertMember at h
    split at h
    · exact List.mem_cons.mp h
    · split at h
      · rcases List.mem_cons.mp h with rfl | h
        · exact .inl rfl
        · exact .inr (List.mem_cons_of_mem _ h)
      · rcases List.mem_cons.mp h with rfl | h
        · exact .inr List.mem_cons_self
        · exact (ih h).imp id (List.mem_cons_of_mem _)

theorem Sorted.insertMember (h : Sorted pairs) : Sorted (insertMember name value pairs) := by
  induction pairs with
  | nil => exact List.pairwise_singleton _ _
  | cons pair pairs ih =>
    obtain ⟨n, v⟩ := pair
    obtain ⟨hfirst, hrest⟩ := List.pairwise_cons.mp h
    unfold Json.insertMember
    by_cases hlt : name < n
    · rw [if_pos hlt]
      refine List.pairwise_cons.mpr ⟨?_, h⟩
      intro m hm
      rcases List.mem_cons.mp hm with rfl | hm
      · exact hlt
      · exact String.lt_trans hlt (hfirst m hm)
    · rw [if_neg hlt]
      by_cases heq : name = n
      · subst heq
        rw [if_pos rfl]
        exact List.pairwise_cons.mpr ⟨hfirst, hrest⟩
      · rw [if_neg heq]
        refine List.pairwise_cons.mpr ⟨?_, ih hrest⟩
        intro m hm
        rcases mem_insertMember hm with rfl | hm
        · exact lt_of_le_of_ne (not_lt.mp hlt) (Ne.symm heq)
        · exact hfirst m hm

/-- A member of a new name is put beside the others. -/
theorem perm_insertMember (h : name ∉ pairs.map Prod.fst) :
    (insertMember name value pairs).Perm ((name, value) :: pairs) := by
  induction pairs with
  | nil => exact .refl _
  | cons pair pairs ih =>
    obtain ⟨n, v⟩ := pair
    simp only [List.map_cons, List.mem_cons, not_or] at h
    unfold insertMember
    by_cases hlt : name < n
    · rw [if_pos hlt]
    · rw [if_neg hlt, if_neg h.1]
      exact ((ih h.2).cons _).trans (.swap _ _ _)

theorem insertAll_cons (m : String × Json) (members pairs : List (String × Json)) :
    insertAll (m :: members) pairs = insertAll members (insertMember m.1 m.2 pairs) := rfl

/-- Members of different names are all there, in order. -/
theorem insertAll_perm {members : List (String × Json)}
    (hnodup : ((members ++ pairs).map Prod.fst).Nodup) (hsorted : Sorted pairs) :
    (insertAll members pairs).Perm (members ++ pairs) ∧ Sorted (insertAll members pairs) := by
  induction members generalizing pairs with
  | nil => exact ⟨.refl _, hsorted⟩
  | cons m members ih =>
    rw [List.cons_append, List.map_cons, List.nodup_cons] at hnodup
    have hnew : m.1 ∉ pairs.map Prod.fst := by
      intro hmem
      refine hnodup.1 ?_
      rw [List.map_append]
      exact List.mem_append_right _ hmem
    have hperm : (insertMember m.1 m.2 pairs).Perm (m :: pairs) := perm_insertMember hnew
    have hmoved : (members ++ insertMember m.1 m.2 pairs).Perm (m :: (members ++ pairs)) :=
      (hperm.append_left members).trans List.perm_middle
    have hnodup' : ((members ++ insertMember m.1 m.2 pairs).map Prod.fst).Nodup :=
      (hmoved.map Prod.fst).nodup_iff.mpr (List.nodup_cons.mpr hnodup)
    obtain ⟨hall, hsorted'⟩ := ih hnodup' hsorted.insertMember
    rw [insertAll_cons]
    exact ⟨hall.trans hmoved, hsorted'⟩

/-- In whatever order sorted members are put in, they come out sorted. -/
theorem insertAll_eq {members sorted : List (String × Json)} (hperm : members.Perm sorted)
    (hsorted : Sorted sorted) : insertAll members [] = sorted := by
  have hnames : (sorted.map Prod.fst).Nodup :=
    List.pairwise_map.mpr (hsorted.imp fun hlt => ne_of_lt hlt)
  have hnodup : ((members ++ []).map Prod.fst).Nodup := by
    rw [List.append_nil]
    exact (hperm.map Prod.fst).nodup_iff.mpr hnames
  obtain ⟨hall, hsorted'⟩ := insertAll_perm hnodup List.Pairwise.nil
  rw [List.append_nil] at hall
  exact (hall.trans hperm).eq_of_pairwise
    (fun m m' _ _ hlt hgt => absurd hgt (String.lt_asymm hlt)) hsorted' hsorted

end CameraFeed.Json
