import CameraFeed.CommandLine
import CameraFeed.Feed.Command
import CameraFeed.Proofs.Filter.Values
import CameraFeed.Proofs.Query.Form

/-! # Merging — filters that are given in parts

  A filter is put together from parts: the pieces of a query, the words of a line, values typed one
  after another, a shared query and the options beside it. `Filter.merged_of_parts` says that each
  of these is the merge of its parts, so neither their order nor a repeated part makes a difference.
  `Filter.ofQuery` folds `Filter.addPair` over the pairs of a query, and adding a pair is a merge
  with the filter of that pair, so the rest of a query can be read on its own. -/

namespace CameraFeed

namespace Filter

/-! ### Laws of merging -/

theorem merge_comm (f g : Filter) : f.merge g = g.merge f := by
  unfold merge
  rw [f.devices.union_comm, f.codes.union_comm, f.actions.union_comm]

theorem merge_assoc (f g h : Filter) : (f.merge g).merge h = f.merge (g.merge h) := by
  simp only [merge, ValueSet.union_assoc]

theorem merge_self (f : Filter) : f.merge f = f := by
  simp only [merge, ValueSet.union_self]

theorem merge_empty (f : Filter) : f.merge empty = f := rfl

theorem empty_merge (f : Filter) : empty.merge f = f := by
  rw [merge_comm, merge_empty]

/-! ### Typed values -/

/-- Lists of typed values in a row are merged. -/
theorem ofTyped_append (devices codes actions devices' codes' actions' : List String) :
    ofTyped (devices ++ devices') (codes ++ codes') (actions ++ actions')
      = (ofTyped devices codes actions).merge (ofTyped devices' codes' actions') := by
  simp only [ofTyped, merge, ValueSet.ofTyped_append]

/-- Only what was typed matters, not in which order and how often. -/
theorem ofTyped_of_mem_iff {devices codes actions devices' codes' actions' : List String}
    (hdevices : ∀ v, v ∈ devices ↔ v ∈ devices') (hcodes : ∀ v, v ∈ codes ↔ v ∈ codes')
    (hactions : ∀ v, v ∈ actions ↔ v ∈ actions') :
    ofTyped devices codes actions = ofTyped devices' codes' actions' := by
  unfold ofTyped
  rw [ValueSet.ofTyped_of_mem_iff hdevices, ValueSet.ofTyped_of_mem_iff hcodes,
    ValueSet.ofTyped_of_mem_iff hactions]

/-! ### Queries -/

/-- A pair adds to the second of two filters what it adds to both together. -/
theorem addPair_merge (f g : Filter) (p : Query.Pair) :
    (f.merge g).addPair p = f.merge (g.addPair p) := by
  unfold addPair
  by_cases hvalue : p.2.isEmpty = true
  · simp only [if_pos hvalue]
  simp only [if_neg hvalue]
  by_cases hdevices : p.1 = devicesKey
  · simp only [if_pos hdevices, merge, ValueSet.insert_union]
  simp only [if_neg hdevices]
  by_cases hcodes : p.1 = codesKey
  · simp only [if_pos hcodes, merge, ValueSet.insert_union]
  simp only [if_neg hcodes]
  by_cases hactions : p.1 = actionsKey
  · simp only [if_pos hactions, merge, ValueSet.insert_union]
  · simp only [if_neg hactions]

/-- Adding pairs to a filter is a merge with the filter of the pairs. -/
theorem foldl_addPair_eq (ps : List Query.Pair) (f : Filter) :
    ps.foldl addPair f = f.merge (ps.foldl addPair empty) := by
  have hfold : ∀ g : Filter, ps.foldl addPair (f.merge g) = f.merge (ps.foldl addPair g) := by
    induction ps with
    | nil => exact fun _ => rfl
    | cons p rest ih =>
      intro g
      rw [List.foldl_cons, List.foldl_cons, addPair_merge, ih]
  have hrun := hfold empty
  rwa [merge_empty] at hrun

/-- A text that does not begin with a question mark has none in front that the reader drops. -/
theorem dropWhile_marks {cs : List Char} (h : cs.head? ≠ some '?') :
    cs.dropWhile (· == '?') = cs := by
  cases cs with
  | nil => rfl
  | cons c rest =>
    have hc : (c == '?') = false := by
      rw [beq_eq_false_iff_ne]
      rintro rfl
      exact h rfl
    rw [List.dropWhile_cons_of_neg (by simp [hc])]

/-- The question marks in front are those of the first of two queries. -/
theorem dropWhile_marks_append (cs more : List Char) :
    (cs ++ '&' :: more).dropWhile (· == '?') = cs.dropWhile (· == '?') ++ '&' :: more := by
  rw [List.dropWhile_append]
  split
  · rename_i hempty
    have hnil : cs.dropWhile (· == '?') = [] := List.isEmpty_iff.mp hempty
    rw [hnil, List.nil_append]
    exact dropWhile_marks (by simp)
  · rfl

/-- The filter of two queries with `&` between them is the merge of their filters. The first may
begin with question marks, in the second they would belong to a name. -/
theorem ofQuery_append (query : String) {more : String} (h : more.toList.head? ≠ some '?') :
    ofQuery (query ++ "&" ++ more) = (ofQuery query).merge (ofQuery more) := by
  have hlist : (query ++ "&" ++ more).toList = query.toList ++ '&' :: more.toList := by simp
  unfold ofQuery
  rw [hlist, dropWhile_marks_append, Query.pairs_append, List.foldl_append, foldl_addPair_eq,
    dropWhile_marks h]

/-- Queries of which only the first may begin with question marks, put together. -/
theorem ofQuery_intercalate (queries : List String)
    (h : ∀ query ∈ queries.drop 1, query.toList.head? ≠ some '?') :
    ofQuery (String.intercalate "&" queries) = (queries.map ofQuery).foldr merge empty := by
  induction queries with
  | nil => rfl
  | cons query rest ih =>
    cases rest with
    | nil =>
      rw [String.intercalate_singleton]
      rfl
    | cons next rest =>
      have hnext : next.toList.head? ≠ some '?' := h next List.mem_cons_self
      have hrest : ∀ query ∈ (next :: rest).drop 1, query.toList.head? ≠ some '?' :=
        fun query hquery => h query (List.mem_cons_of_mem next hquery)
      -- What follows begins as its first query does, or with `&` if that one is empty.
      have hhead : (String.intercalate "&" (next :: rest)).toList.head? ≠ some '?' := by
        cases rest with
        | nil => rwa [String.intercalate_singleton]
        | cons _ _ =>
          rw [String.intercalate_cons_cons, String.append_assoc, String.toList_append]
          cases hchars : next.toList with
          | nil => simp
          | cons c cs =>
            rw [hchars] at hnext
            exact hnext
      rw [String.intercalate_cons_cons, ofQuery_append query hhead, ih hrest]
      rfl

end Filter

/-! ### The console and the command line -/

/-- The words after the name of the command are parts of one query. -/
theorem Feed.Command.read_of_filterWords {line : String} {arguments : List String}
    (hline : Text.wordsOf line = "filter" :: arguments)
    (hmarks : ∀ argument ∈ arguments.drop 1, argument.toList.head? ≠ some '?') :
    Feed.Command.read line
      = .ok (.filter ((arguments.map Filter.ofQuery).foldr Filter.merge .empty)) := by
  unfold Feed.Command.read
  rw [hline]
  show Except.ok (Feed.Command.filter (.ofQuery (String.intercalate "&" arguments))) = _
  rw [Filter.ofQuery_intercalate arguments hmarks]

namespace CommandLine.Options

variable {o : Options} {v : String}

/-- The filter that was shared, before anything is added. -/
def shared (o : Options) : Filter := (o.filter.map Filter.ofQuery).getD .empty

theorem initialFilter_eq (o : Options) :
    o.initialFilter = o.shared.merge (.ofTyped o.devices o.codes o.actions) := rfl

/-- The values of a dimension of the shared filter are those of its query. -/
theorem mem_shared {dimension : Filter → Filter.ValueSet} (h : dimension .empty = .empty) :
    v ∈ (dimension o.shared).values ↔
      ∃ query, o.filter = some query ∧ v ∈ (dimension (.ofQuery query)).values := by
  unfold shared
  cases o.filter with
  | none =>
    show v ∈ (dimension .empty).values ↔ _
    rw [h]
    simp [Filter.ValueSet.empty]
  | some query => simp

/-- Typed values are added to those of the shared filter. -/
theorem mem_shared_union {dimension : Filter → Filter.ValueSet} (h : dimension .empty = .empty)
    {typed : List String} :
    v ∈ ((dimension o.shared).union (.ofTyped typed)).values ↔
      (∃ query, o.filter = some query ∧ v ∈ (dimension (.ofQuery query)).values) ∨
        v ∈ typed.map Text.trimmed ∧ v ≠ "" := by
  rw [Filter.ValueSet.mem_union, Filter.ValueSet.mem_ofTyped, mem_shared h]

end CommandLine.Options

/-! ### The main statement -/

/-- A filter that is given in parts is the merge of the parts. This holds for queries with `&`
between them, well formed or not, for values typed in a row, for the words of a line, and for a
shared query with options beside it. Merging is associative, commutative and idempotent, and the
empty filter is its unit, so a filter depends on its values only. -/
theorem Filter.merged_of_parts :
    (∀ query more : String, more.toList.head? ≠ some '?' →
        ofQuery (query ++ "&" ++ more) = (ofQuery query).merge (ofQuery more)) ∧
      (∀ f g h : Filter, (f.merge g).merge h = f.merge (g.merge h) ∧ f.merge g = g.merge f ∧
        f.merge f = f ∧ f.merge empty = f ∧ empty.merge f = f) ∧
      (∀ devices codes actions devices' codes' actions' : List String,
        ofTyped (devices ++ devices') (codes ++ codes') (actions ++ actions')
          = (ofTyped devices codes actions).merge (ofTyped devices' codes' actions')) ∧
      (∀ devices codes actions devices' codes' actions' : List String,
        (∀ v, v ∈ devices ↔ v ∈ devices') → (∀ v, v ∈ codes ↔ v ∈ codes') →
        (∀ v, v ∈ actions ↔ v ∈ actions') →
        ofTyped devices codes actions = ofTyped devices' codes' actions' ∧
          (ofTyped devices codes actions).toQuery = (ofTyped devices' codes' actions').toQuery) ∧
      (∀ line arguments, Text.wordsOf line = "filter" :: arguments →
        (∀ argument ∈ arguments.drop 1, argument.toList.head? ≠ some '?') →
        Feed.Command.read line = .ok (.filter ((arguments.map ofQuery).foldr merge empty))) ∧
      ∀ (o : CommandLine.Options) (v : String),
        (v ∈ o.initialFilter.devices.values ↔
          (∃ query, o.filter = some query ∧ v ∈ (ofQuery query).devices.values) ∨
            v ∈ o.devices.map Text.trimmed ∧ v ≠ "") ∧
        (v ∈ o.initialFilter.codes.values ↔
          (∃ query, o.filter = some query ∧ v ∈ (ofQuery query).codes.values) ∨
            v ∈ o.codes.map Text.trimmed ∧ v ≠ "") ∧
        (v ∈ o.initialFilter.actions.values ↔
          (∃ query, o.filter = some query ∧ v ∈ (ofQuery query).actions.values) ∨
            v ∈ o.actions.map Text.trimmed ∧ v ≠ "") := by
  refine ⟨fun query _ => ofQuery_append query, ?_, ofTyped_append, ?_,
    fun _ _ => Feed.Command.read_of_filterWords, ?_⟩
  · intro f g h
    exact ⟨merge_assoc f g h, merge_comm f g, merge_self f, merge_empty f, empty_merge f⟩
  · intro devices codes actions devices' codes' actions' hdevices hcodes hactions
    have heq := ofTyped_of_mem_iff hdevices hcodes hactions
    exact ⟨heq, congrArg toQuery heq⟩
  · intro o v
    rw [o.initialFilter_eq]
    exact ⟨CommandLine.Options.mem_shared_union rfl, CommandLine.Options.mem_shared_union rfl,
      CommandLine.Options.mem_shared_union rfl⟩

/-- Parts with a broken escape, a name without a value, an empty name and an unknown one, a value
typed twice, and a shared query with an option beside it. -/
theorem Filter.merged_of_oddParts :
    ofQuery ("??codes=%zz&page" ++ "&" ++ "=b&actions=stop&codes=%C3%A9")
        = (ofQuery "??codes=%zz&page").merge (ofQuery "=b&actions=stop&codes=%C3%A9") ∧
      ofTyped ["cam 2 ", "cam 1"] ["", "a"] [] = ofTyped ["cam 1", "cam 2 ", "cam 1"] ["a", ""] [] ∧
      Feed.Command.read "filter ?codes=%zz  actions=stop"
        = .ok (.filter ((ofQuery "?codes=%zz").merge (ofQuery "actions=stop"))) ∧
      "b" ∈ { CommandLine.Options.none with
        filter := some "?codes=a", codes := [" b "] }.initialFilter.codes.values := by
  obtain ⟨hqueries, -, -, htyped, hline, hinitial⟩ := merged_of_parts
  have hplain : "=b&actions=stop&codes=%C3%A9".toList.head? ≠ some '?' := by simp
  have hwords : Text.wordsOf "filter ?codes=%zz  actions=stop"
      = ["filter", "?codes=%zz", "actions=stop"] := by decide +kernel
  have htyped' := htyped ["cam 2 ", "cam 1"] ["", "a"] [] ["cam 1", "cam 2 ", "cam 1"] ["a", ""] []
    (by simp [or_comm]) (by simp [or_comm]) (fun _ => Iff.rfl)
  have hwords' : ∀ argument ∈ ["?codes=%zz", "actions=stop"].drop 1,
      argument.toList.head? ≠ some '?' := by simp
  have hread := hline _ _ hwords hwords'
  rw [List.map_cons, List.map_singleton, List.foldr_cons, List.foldr_cons, List.foldr_nil,
    merge_empty] at hread
  exact ⟨hqueries _ _ hplain, htyped'.1, hread,
    (hinitial _ "b").2.1.mpr (.inr ⟨by decide +kernel, by simp⟩)⟩

end CameraFeed
