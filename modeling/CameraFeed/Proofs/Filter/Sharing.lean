import CameraFeed.CommandLine
import CameraFeed.Feed.Command
import CameraFeed.Proofs.Filter.Merging
import CameraFeed.Proofs.Query.Form
import CameraFeed.Proofs.Text.Words

/-! # Sharing — a filter is determined by its query

  The query of a filter is shared: it is read from a link, typed on the console, or given to the
  program as an option. `Filter.shared_of_made` says that each of these gives the same filter back,
  for every filter that can be made. The one condition is that no value is empty, since a reader
  skips empty values. -/

namespace CameraFeed

namespace Filter

/-! ### Filters that can be made -/

/-- A filter that was made by the operations there are. -/
inductive Made : Filter → Prop where
  | ofTyped (devices codes actions : List String) : Made (.ofTyped devices codes actions)
  | ofQuery (query : String) : Made (.ofQuery query)
  | merge {f g : Filter} : Made f → Made g → Made (f.merge g)
  | setDevices {f : Filter} (values : List String) :
      Made f → Made { f with devices := .ofTyped values }
  | setCodes {f : Filter} (values : List String) :
      Made f → Made { f with codes := .ofTyped values }
  | setActions {f : Filter} (values : List String) :
      Made f → Made { f with actions := .ofTyped values }

/-- No dimension has an empty value. -/
structure Filled (f : Filter) : Prop where
  devices : f.devices.Filled
  codes : f.codes.Filled
  actions : f.actions.Filled

variable {f : Filter}

theorem Filled.addPair (h : f.Filled) (p : Query.Pair) : (f.addPair p).Filled := by
  unfold Filter.addPair
  split
  · exact h
  rename_i hvalue
  have hne : p.2 ≠ "" := by simpa using hvalue
  split
  · exact { h with devices := h.devices.insert hne }
  split
  · exact { h with codes := h.codes.insert hne }
  split
  · exact { h with actions := h.actions.insert hne }
  · exact h

/-- A query with empty values leaves them out. -/
theorem filled_ofQuery (query : String) : (ofQuery query).Filled := by
  have hfold : ∀ (ps : List Query.Pair) (f : Filter), f.Filled → (ps.foldl addPair f).Filled := by
    intro ps
    induction ps with
    | nil => exact fun _ h => h
    | cons p rest ih => exact fun f h => ih _ (h.addPair p)
  exact hfold _ _ ⟨ValueSet.filled_empty, ValueSet.filled_empty, ValueSet.filled_empty⟩

theorem Made.filled (h : f.Made) : f.Filled := by
  induction h with
  | ofTyped devices codes actions =>
    exact ⟨ValueSet.filled_ofTyped _, ValueSet.filled_ofTyped _, ValueSet.filled_ofTyped _⟩
  | ofQuery query => exact filled_ofQuery query
  | merge _ _ hf hg =>
    exact ⟨hf.devices.union hg.devices, hf.codes.union hg.codes, hf.actions.union hg.actions⟩
  | setDevices values _ ih => exact { ih with devices := ValueSet.filled_ofTyped values }
  | setCodes values _ ih => exact { ih with codes := ValueSet.filled_ofTyped values }
  | setActions values _ ih => exact { ih with actions := ValueSet.filled_ofTyped values }

/-! ### The text of a query -/

theorem toList_toQuery (f : Filter) : f.toQuery.toList = Query.written f.pairs := by
  simp [toQuery, Query.text]

theorem isEmpty_iff : f.isEmpty = true ↔ f.pairs = [] := by
  simp [isEmpty, pairs, ValueSet.isEmpty_iff, and_assoc]

theorem toQuery_eq_empty_iff : f.toQuery = "" ↔ f.isEmpty = true := by
  rw [isEmpty_iff, ← Query.written_eq_nil_iff, ← toList_toQuery, String.toList_eq_nil_iff]

theorem mem_toQuery {c : Char} (h : c ∈ f.toQuery.toList) :
    c.isAlphanum = true ∨ c ∈ "*-._+%&=".toList :=
  Query.mem_written (f.toList_toQuery ▸ h)

/-- A query that is not empty begins with the first letter of a dimension. -/
theorem mem_head?_toQuery {c : Char} (h : c ∈ f.toQuery.toList.head?) :
    c = 'd' ∨ c = 'c' ∨ c = 'a' := by
  rw [toList_toQuery] at h
  cases hpairs : f.pairs with
  | nil =>
    rw [hpairs] at h
    cases h
  | cons p rest =>
    obtain ⟨more, hwritten⟩ := Query.exists_written_cons p rest
    rw [hpairs, hwritten] at h
    have hname : p.1 = devicesKey ∨ p.1 = codesKey ∨ p.1 = actionsKey := by
      have hp : p ∈ f.pairs := hpairs ▸ List.mem_cons_self
      simp only [pairs, List.mem_append, List.mem_map] at hp
      rcases hp with (⟨v, -, rfl⟩ | ⟨v, -, rfl⟩) | ⟨v, -, rfl⟩
      · exact .inl rfl
      · exact .inr (.inl rfl)
      · exact .inr (.inr rfl)
    rcases hname with hname | hname | hname <;> rw [hname] at h
    · exact .inl (Option.some.inj h).symm
    · exact .inr (.inl (Option.some.inj h).symm)
    · exact .inr (.inr (Option.some.inj h).symm)

/-- A query does not begin with a question mark, so there is none that a reader would drop. -/
theorem head?_toQuery_ne (f : Filter) : f.toQuery.toList.head? ≠ some '?' := by
  intro hmark
  rcases mem_head?_toQuery hmark with hc | hc | hc <;> cases hc

/-- A query that is not empty is one word. -/
theorem isWord_toQuery (h : f.toQuery ≠ "") : Text.IsWord f.toQuery.toList where
  ne_nil := by
    rw [ne_eq, String.toList_eq_nil_iff]
    exact h
  notBlank := by
    intro c hc
    rw [toList_toQuery] at hc
    exact Query.isBlank_of_mem_written hc

/-! ### Reading a query -/

/-- Pairs of one name add their values to one dimension. -/
theorem foldl_addPair (key : String) (into : ValueSet → Filter)
    (hinto : ∀ s v, v ≠ "" → (into s).addPair (key, v) = into (s.insert v)) {vs : List String}
    (hvs : "" ∉ vs) (s : ValueSet) :
    (vs.map (key, ·)).foldl addPair (into s) = into (s.insertAll vs) := by
  induction vs generalizing s with
  | nil => rfl
  | cons v rest ih =>
    have hv : v ≠ "" := fun h => hvs (h ▸ List.mem_cons_self)
    have hrest : "" ∉ rest := fun h => hvs (List.mem_cons_of_mem v h)
    rw [List.map_cons, List.foldl_cons, hinto s v hv]
    exact ih hrest (s.insert v)

/-- A filter without empty values is read back from its query. -/
theorem Filled.ofQuery_toQuery (h : f.Filled) : ofQuery f.toQuery = f := by
  have hmarks : f.toQuery.toList.dropWhile (· == '?') = f.toQuery.toList :=
    dropWhile_marks f.head?_toQuery_ne
  -- The dimensions come one after another, each beside those that are there by then.
  have hdevices := foldl_addPair devicesKey (fun s => ⟨s, .empty, .empty⟩)
    (fun s v hv => by simp [Filter.addPair, hv]) h.devices .empty
  have hcodes := foldl_addPair codesKey (fun s => ⟨f.devices, s, .empty⟩)
    (fun s v hv => by simp [Filter.addPair, hv, codesKey, devicesKey]) h.codes .empty
  have hactions := foldl_addPair actionsKey (fun s => ⟨f.devices, f.codes, s⟩)
    (fun s v hv => by simp [Filter.addPair, hv, actionsKey, codesKey, devicesKey]) h.actions .empty
  rw [ValueSet.insertAll_values] at hdevices hcodes hactions
  have hempty : empty = ⟨.empty, .empty, .empty⟩ := rfl
  rw [ofQuery, hmarks, toList_toQuery, Query.pairs_written, pairs, List.foldl_append,
    List.foldl_append, hempty, hdevices, hcodes, hactions]

end Filter

/-! ### The console and the command line -/

/-- The line that replaces the filter. -/
theorem Feed.Command.read_filter {f : Filter} (h : f.Filled) :
    Feed.Command.read ("filter " ++ f.toQuery) = .ok (.filter f) := by
  have hname : Text.IsWord "filter".toList := Text.isWord_of_all (by decide) (by decide)
  have hline : "filter " ++ f.toQuery = "filter" ++ " " ++ f.toQuery := rfl
  have hjoined : String.intercalate "&" (Text.wordsOf f.toQuery) = f.toQuery := by
    by_cases hempty : f.toQuery = ""
    -- No word is left after the name, and nothing is what the empty filter is read from.
    · rw [hempty]
      rfl
    · rw [Text.wordsOf_of_isWord (Filter.isWord_toQuery hempty)]
      rfl
  have hread : Feed.Command.ofWords "filter" (Text.wordsOf f.toQuery)
      = .ok (.filter (.ofQuery (String.intercalate "&" (Text.wordsOf f.toQuery)))) := rfl
  unfold Feed.Command.read
  rw [hline, Text.wordsOf_append hname]
  show Feed.Command.ofWords "filter" (Text.wordsOf f.toQuery) = _
  rw [hread, hjoined, h.ofQuery_toQuery]

namespace CommandLine

/-- Nothing was said but a shared filter. -/
def Options.ofFilter (query : String) : Options := { Options.none with filter := some query }

theorem Options.initialFilter_ofFilter (query : String) :
    (Options.ofFilter query).initialFilter = .ofQuery query := rfl

/-- The query of a filter is the value of the option before it. -/
theorem read_filter (f : Filter) (environmentFilter : Option String) :
    read ["--filter", f.toQuery] environmentFilter = .ok (.ofFilter f.toQuery) := by
  have hnamed : takeWords ⟨.none, none⟩ ["--filter", f.toQuery]
      = takeWords ⟨.none, some (.filter, none)⟩ [f.toQuery] := rfl
  have hplain : takeWords ⟨.none, some (.filter, none)⟩ [f.toQuery]
      = .ok ⟨.none, some (.filter, some f.toQuery)⟩ := by
    -- A word that begins with a dash would be an option of its own.
    rw [takeWords]
    cases hquery : f.toQuery.toList with
    | nil => rfl
    | cons c cs =>
      have hc := Filter.mem_head?_toQuery (f := f) (c := c) (by rw [hquery]; rfl)
      rcases hc with rfl | rfl | rfl <;> rfl
  rw [read, hnamed, hplain]
  rfl

end CommandLine

/-! ### The main statement -/

/-- A filter that can be made has no empty values. Its query is empty only if the filter is, and has
plain characters only. Reading the query gives the filter back, and so do the console line of the
command with the query and the start of the program with the query as the value of its option. So
different filters have different queries, and reading, writing and reading a query again gives the
same filter. -/
theorem Filter.shared_of_made {f : Filter} (h : f.Made) :
    ("" ∉ f.devices.values ∧ "" ∉ f.codes.values ∧ "" ∉ f.actions.values) ∧
      (f.toQuery = "" ↔ f.isEmpty = true) ∧
      (∀ c ∈ f.toQuery.toList, c.isAlphanum = true ∨ c ∈ "*-._+%&=".toList) ∧
      ofQuery f.toQuery = f ∧
      Feed.Command.read ("filter " ++ f.toQuery) = .ok (.filter f) ∧
      (∀ environmentFilter, CommandLine.read ["--filter", f.toQuery] environmentFilter
        = .ok (.ofFilter f.toQuery)) ∧
      (CommandLine.Options.ofFilter f.toQuery).initialFilter = f ∧
      (∀ g : Filter, g.Made → g.toQuery = f.toQuery → g = f) ∧
      ∀ query, ofQuery (ofQuery query).toQuery = ofQuery query := by
  have hfilled := h.filled
  have hread := hfilled.ofQuery_toQuery
  refine ⟨⟨hfilled.devices, hfilled.codes, hfilled.actions⟩, toQuery_eq_empty_iff,
    fun c => mem_toQuery, hread, Feed.Command.read_filter hfilled, CommandLine.read_filter f, ?_,
    ?_, fun query => (filled_ofQuery query).ofQuery_toQuery⟩
  · rw [CommandLine.Options.initialFilter_ofFilter, hread]
  · intro g hg hquery
    rw [← hg.filled.ofQuery_toQuery, hquery, hread]

/-- A filter whose values have white space, signs of a query and a letter of two octets. -/
def Filter.oddFilter : Filter :=
  { (ofTyped [" cam 1", "cam&2", " "] [] []).merge (ofQuery "??codes=%C3%A9&codes=&page=2") with
    actions := .ofTyped ["100%=all"] }

theorem Filter.shared_of_oddFilter :
    oddFilter.Made ∧
      oddFilter.toQuery
        = "device-uuids=cam+1&device-uuids=cam%262&codes=%C3%A9&actions=100%25%3Dall" ∧
      ofQuery oddFilter.toQuery = oddFilter ∧
      Feed.Command.read ("filter " ++ oddFilter.toQuery) = .ok (.filter oddFilter) := by
  have hmade : oddFilter.Made := ((Made.ofTyped _ _ _).merge (.ofQuery _)).setActions _
  obtain ⟨-, -, -, hread, hline, -⟩ := shared_of_made hmade
  exact ⟨hmade, by decide +kernel, hread, hline⟩

end CameraFeed
