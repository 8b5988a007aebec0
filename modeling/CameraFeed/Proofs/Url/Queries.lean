import CameraFeed.Url.Parser
import Mathlib.Data.List.TakeDrop
import Mathlib.Data.List.TakeWhile

/-! # Queries — addresses that have a query

  An address has a query depending on the marks in its text alone: the first question mark begins
  it, unless the fragment began before. The addresses of the transports are read from the text of
  the server address with a path appended, whatever that text is. `query_append` says that such an
  address has a query exactly if that of the server has one. -/

namespace CameraFeed.Url

/-! ### Marks -/

theorem cutMark_eq (mark : Char) (cs : List Char) :
    cutMark mark cs = (cs.takeWhile (· != mark), (cs.dropWhile (· != mark)).tail?) := by
  unfold cutMark
  rw [List.span_eq_takeWhile_dropWhile]
  cases cs.dropWhile (· != mark) with
  | nil => rfl
  | cons c rest => rfl

/-- There is nothing after a mark that is not there. -/
theorem cutMark_snd_eq_none_iff {mark : Char} {cs : List Char} :
    (cutMark mark cs).2 = none ↔ mark ∉ cs := by
  have htail : (cs.dropWhile (· != mark)).tail? = none ↔ cs.dropWhile (· != mark) = [] := by
    cases cs.dropWhile (· != mark) <;> simp
  rw [cutMark_eq, htail, List.dropWhile_eq_nil_iff]
  constructor
  · intro hall hmem
    have hmark := hall mark hmem
    simp at hmark
  · intro hmem c hc
    rw [bne_iff_ne]
    rintro rfl
    exact hmem hc

/-! ### Schemes -/

/-- A scheme is what stands before the first colon. -/
theorem eq_append_of_scheme? {cs scheme rest : List Char} (h : scheme? cs = some (scheme, rest)) :
    ∃ name, cs = name ++ ':' :: rest ∧ (∀ c ∈ name, isSchemeChar c = true) ∧
      name.head?.any isLetter = true ∧ scheme = name.map Char.toLower := by
  have hcs : cs.takeWhile isSchemeChar ++ cs.drop (cs.takeWhile isSchemeChar).length = cs :=
    List.prefix_iff_eq_append.mp (List.takeWhile_prefix isSchemeChar)
  simp only [scheme?] at h
  split at h
  · rename_i rest' hrest
    split at h
    · rename_i hletter
      obtain ⟨rfl, rfl⟩ := Prod.mk.inj (Option.some.inj h)
      rw [hrest] at hcs
      refine ⟨_, hcs.symm, ?_, hletter, rfl⟩
      intro c hc
      exact List.mem_takeWhile_imp hc
    · cases h
  · cases h

/-- A text behind an address does not change its scheme. -/
theorem scheme?_append {cs scheme rest : List Char} (h : scheme? cs = some (scheme, rest))
    (more : List Char) : scheme? (cs ++ more) = some (scheme, rest ++ more) := by
  obtain ⟨name, rfl, hname, hletter, rfl⟩ := eq_append_of_scheme? h
  have htake : (name ++ ':' :: rest ++ more).takeWhile isSchemeChar = name := by
    rw [List.append_assoc, List.takeWhile_append_of_pos hname]
    simp [isSchemeChar]
  have hdrop : (name ++ ':' :: rest ++ more).drop name.length = ':' :: (rest ++ more) := by
    rw [List.append_assoc, List.drop_left]
    rfl
  simp only [scheme?, htake, hdrop, hletter, if_true]

/-! ### Addresses -/

/-- The question mark of a query comes after the scheme and before the fragment. -/
theorem query_eq_none_iff {s : String} {u : Url} (h : read s = .ok u) :
    ∃ scheme rest, scheme? (cleaned s) = some (scheme, rest) ∧
      (u.query = none ↔ '?' ∉ rest.takeWhile (· != '#')) := by
  unfold read at h
  cases hscheme : scheme? (cleaned s) with
  | none =>
    rw [hscheme] at h
    cases h
  | some parts =>
    obtain ⟨scheme, rest⟩ := parts
    rw [hscheme] at h
    refine ⟨scheme, rest, rfl, ?_⟩
    have hmark : (cutMark '#' rest).1 = rest.takeWhile (· != '#') :=
      congrArg Prod.fst (cutMark_eq '#' rest)
    rw [← cutMark_snd_eq_none_iff, ← hmark]
    dsimp only at h
    cases hhierarchy : hierarchyOf (kindOf scheme)
        ((cutMark '?' (cutMark '#' rest).1).2.isSome || (cutMark '#' rest).2.isSome)
        (cutMark '?' (cutMark '#' rest).1).1 with
    | error fault =>
      rw [hhierarchy] at h
      cases h
    | ok place =>
      rw [hhierarchy] at h
      obtain rfl := Except.ok.inj h
      exact Option.map_eq_none_iff

/-! ### Places on a server -/

/-- The character has no meaning at the ends of a text. -/
def isEdge (c : Char) : Bool := decide (c.toNat ≤ 0x20)

/-- The character has a meaning between the ends. -/
def isKept (c : Char) : Bool := c != '\t' && c != '\n' && c != '\r'

theorem cleaned_eq (s : String) :
    cleaned s
      = (((s.toList.dropWhile isEdge).reverse.dropWhile isEdge).reverse).filter isKept := rfl

theorem isKept_of_not_isEdge {c : Char} (h : isEdge c = false) : isKept c = true := by
  simp only [isKept, Bool.and_eq_true, bne_iff_ne]
  refine ⟨⟨?_, ?_⟩, ?_⟩ <;> rintro rfl <;> exact absurd h (by decide)

/-- Nothing is dropped in front of a text that begins with a meaning. -/
theorem dropWhile_isEdge_append {cs : List Char} (hne : cs ≠ []) (h : ∀ c ∈ cs, isEdge c = false)
    (more : List Char) : (cs ++ more).dropWhile isEdge = cs ++ more := by
  obtain ⟨c, rest, rfl⟩ := List.exists_cons_of_ne_nil hne
  rw [List.cons_append, List.dropWhile_cons_of_neg (by simp [h c List.mem_cons_self])]

/-- Of a path after a text all is kept, and of the text what is kept without the path. White space
at the end of the text is inside then. -/
theorem exists_cleaned_append (base : String) {path : String} (hne : path.toList ≠ [])
    (hpath : ∀ c ∈ path.toList, isEdge c = false) :
    ∃ gap, cleaned (base ++ path) = cleaned base ++ (gap ++ path.toList) ∧
      ∀ c ∈ gap, isEdge c = true := by
  have hstart : (base ++ path).toList.dropWhile isEdge
      = base.toList.dropWhile isEdge ++ path.toList := by
    have hself := dropWhile_isEdge_append hne hpath []
    rw [List.append_nil] at hself
    rw [String.toList_append, List.dropWhile_append]
    split
    · rename_i hblank
      rw [hself, List.isEmpty_iff.mp hblank, List.nil_append]
    · rfl
  rw [cleaned_eq, cleaned_eq, hstart]
  generalize base.toList.dropWhile isEdge = start
  have hend : (start ++ path.toList).reverse.dropWhile isEdge = (start ++ path.toList).reverse := by
    rw [List.reverse_append]
    exact dropWhile_isEdge_append (by simpa using hne)
      (fun c hc => hpath c (List.mem_reverse.mp hc)) _
  have hgap : (start.reverse.dropWhile isEdge).reverse ++ (start.reverse.takeWhile isEdge).reverse
      = start := by
    rw [← List.reverse_append, List.takeWhile_append_dropWhile, List.reverse_reverse]
  have hkept : path.toList.filter isKept = path.toList :=
    List.filter_eq_self.mpr fun c hc => isKept_of_not_isEdge (hpath c hc)
  refine ⟨(start.reverse.takeWhile isEdge).reverse.filter isKept, ?_, ?_⟩
  · rw [hend, List.reverse_reverse, List.filter_append, hkept, ← List.append_assoc,
      ← List.filter_append, hgap]
  · intro c hc
    have hc' := List.mem_reverse.mp (List.mem_filter.mp hc).1
    exact List.mem_takeWhile_imp hc'

/-- A place on a server has a query exactly if the address of the server has one. -/
theorem query_append {base path : String} {u v : Url} (hne : path.toList ≠ [])
    (hpath : (path.toList.all fun c => !isEdge c && c != '?') = true) (hu : read base = .ok u)
    (hv : read (base ++ path) = .ok v) : v.query = none ↔ u.query = none := by
  have hplain : ∀ c ∈ path.toList, isEdge c = false ∧ c ≠ '?' := by simpa using hpath
  obtain ⟨scheme, rest, hscheme, hquery⟩ := query_eq_none_iff hu
  obtain ⟨scheme', rest', hscheme', hquery'⟩ := query_eq_none_iff hv
  obtain ⟨gap, hcleaned, hgap⟩ :=
    exists_cleaned_append base hne fun c hc => (hplain c hc).1
  rw [hcleaned, scheme?_append hscheme] at hscheme'
  obtain ⟨rfl, rfl⟩ := Prod.mk.inj (Option.some.inj hscheme')
  have hmore : '?' ∉ gap ++ path.toList := by
    intro hmem
    rcases List.mem_append.mp hmem with hc | hc
    · exact absurd (hgap _ hc) (by decide)
    · exact (hplain _ hc).2 rfl
  rw [hquery, hquery', List.takeWhile_append]
  split
  -- Without a fragment, what comes at the end has no question mark.
  · rename_i hlength
    have hall : rest.takeWhile (· != '#') = rest :=
      (List.takeWhile_prefix _).eq_of_length hlength
    have hnone : '?' ∉ (gap ++ path.toList).takeWhile (· != '#') := fun hmem =>
      hmore ((List.takeWhile_prefix _).mem hmem)
    rw [hall, List.mem_append, or_iff_left hnone]
  · rfl

end CameraFeed.Url
