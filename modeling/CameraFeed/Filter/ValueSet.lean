import CameraFeed.Text.Blank

/-! # ValueSet — the values of one dimension of a filter

  A finite set of texts, kept as a list that strictly increases. Two sets with the same values are
  the same list, so a set has one written form. -/

namespace CameraFeed.Filter

/-- Puts a value where it belongs in an increasing list, if it is not there. -/
def place (value : String) : List String → List String
  | [] => [value]
  | v :: rest =>
    if value < v then value :: v :: rest
    else if value = v then v :: rest
    else v :: place value rest

/-- The members of a list after placing: the new value and the old ones. -/
theorem mem_place (value x : String) (vs : List String) :
    x ∈ place value vs ↔ x = value ∨ x ∈ vs := by
  induction vs with
  | nil => simp [place]
  | cons v rest ih =>
    unfold place
    split
    · simp
    · split
      · rename_i h; subst h; simp
      · simp only [List.mem_cons, ih]; constructor
        · rintro (h | h | h) <;> simp [h]
        · rintro (h | h | h) <;> simp [h]

/-- Placing keeps a list increasing. -/
theorem sorted_place (value : String) {vs : List String} (h : vs.Pairwise (· < ·)) :
    (place value vs).Pairwise (· < ·) := by
  induction vs with
  | nil => simp [place]
  | cons v rest ih =>
    have hrest := (List.pairwise_cons.mp h).2
    have hv := (List.pairwise_cons.mp h).1
    unfold place
    split
    · rename_i hlt
      refine List.pairwise_cons.mpr ⟨?_, h⟩
      intro x hx
      rcases List.mem_cons.mp hx with rfl | hx
      · exact hlt
      · exact String.lt_trans hlt (hv x hx)
    · split
      · exact h
      · rename_i hle hne
        refine List.pairwise_cons.mpr ⟨?_, ih hrest⟩
        intro x hx
        rcases (mem_place value x rest).mp hx with rfl | hx
        · rcases Decidable.em (v < x) with hlt | hge
          · exact hlt
          · exact absurd (String.le_antisymm hge hle) hne
        · exact hv x hx

/-- A finite set of texts. -/
structure ValueSet where
  values : List String
  /-- The values are kept in order, each of them once. -/
  sorted : values.Pairwise (· < ·)
  deriving DecidableEq

namespace ValueSet

/-- No values. -/
def empty : ValueSet := ⟨[], .nil⟩

instance : Inhabited ValueSet := ⟨empty⟩

/-- No value is in the set. -/
def isEmpty (s : ValueSet) : Bool := s.values.isEmpty

/-- The set with one more value. -/
def insert (s : ValueSet) (value : String) : ValueSet :=
  ⟨place value s.values, sorted_place value s.sorted⟩

/-- The set with the values of a list added. -/
def insertAll (s : ValueSet) (values : List String) : ValueSet := values.foldl insert s

/-- The values that are in either set. -/
def union (s t : ValueSet) : ValueSet := s.insertAll t.values

/-- The set of typed values, each without the white space around it. Blank ones are dropped. -/
def ofTyped (values : List String) : ValueSet :=
  empty.insertAll ((values.map Text.trimmed).filter fun v => !v.isEmpty)

end ValueSet

end CameraFeed.Filter
