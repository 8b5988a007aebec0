import CameraFeed.Proofs.Feed.Ledger
import Mathlib.Data.List.Nodup

/-! # Rows — the numbers of events and rows

  The buffer holds the events and the projection their rows, each by itself. `rows_of_run` says that
  the numbers of both are the same in every run: there is a row for each event in the buffer, and no
  other. The numbers are given one after another and never again, also after an eviction, a clearing
  or a change of the filter, so a number always names the event that it was given to, or none. -/

namespace CameraFeed.Feed

/-! ### Keys of rows -/

namespace Projection

/-- The numbers that have a row. -/
def keys (p : Projection) : List Nat := p.rows.map Prod.fst

theorem keys_addRow (p : Projection) (seq : Nat) :
    (p.addRow seq).keys = seq :: p.keys.filter fun k => k != seq := by
  simp only [keys, addRow, without, List.map_cons, List.filter_map]
  rfl

theorem keys_forget (p : Projection) (seqs : List Nat) :
    (p.forget seqs).keys = p.keys.filter fun k => !seqs.contains k := by
  simp only [keys, forget, List.filter_map]
  rfl

theorem keys_setAll (p : Projection) (expanded : Bool) : (p.setAll expanded).keys = p.keys := by
  simp only [keys, setAll, List.map_map]
  rfl

theorem keys_toggleRow (p : Projection) (seq : Nat) : (p.toggleRow seq).2.keys = p.keys := by
  rw [toggleRow]
  cases p.isExpanded seq with
  | none => rfl
  | some b =>
    simp only [keys, List.map_map]
    refine List.map_congr_left fun row _ => ?_
    by_cases hrow : row.1 = seq
    · simp [hrow]
    · simp [hrow]

/-- A number has a setting exactly if it has a row. -/
theorem isExpanded_isSome (p : Projection) (seq : Nat) :
    (p.isExpanded seq).isSome = true ↔ seq ∈ p.keys := by
  simp [isExpanded, keys, List.lookup_isSome_iff]

/-- A number can be toggled exactly if it has a row. -/
theorem toggleRow_isSome (p : Projection) (seq : Nat) :
    (p.toggleRow seq).1.isSome = true ↔ seq ∈ p.keys := by
  rw [← isExpanded_isSome, toggleRow]
  cases p.isExpanded seq <;> simp

/-- A row has a payload exactly if it is expanded, and rendering the payload does not fail. -/
theorem payload_renderRow (p : Projection) (names : Directory) (now : Time.Instant)
    (b : Buffered) : (p.renderRow names now b).payload
      = if (p.isExpanded b.seq).getD p.byDefault then .expanded b.event.data.prettyText
        else .collapsed := by
  rw [renderRow]
  cases (p.isExpanded b.seq).getD p.byDefault <;> rfl

/-- Without a row, nothing is toggled. -/
theorem toggleRow_of_notMem {p : Projection} {seq : Nat} (h : seq ∉ p.keys) :
    p.toggleRow seq = (none, p) := by
  have hnone : p.isExpanded seq = none :=
    Option.not_isSome_iff_eq_none.mp fun hsome => h ((p.isExpanded_isSome seq).mp hsome)
  rw [toggleRow, hnone]

end Projection

/-! ### Evictions -/

namespace Buffer

/-- The new event and the newest of the others are kept. -/
theorem events_prepend_prefix (b : Buffer) (e : DeviceEvent) :
    (b.prepend e).2.events <+: ⟨b.nextSeq, e⟩ :: b.events := by
  rw [prepend]
  cases b.limit with
  | none => exact List.prefix_rfl
  | some limit => exact List.take_prefix limit _

/-- All others are evicted. -/
theorem evicted_prepend (b : Buffer) (e : DeviceEvent) :
    (b.prepend e).1.evicted
      = (b.nextSeq :: b.events.map Buffered.seq).drop (b.prepend e).2.events.length := by
  rw [← List.map_cons (f := Buffered.seq) (a := ⟨b.nextSeq, e⟩), ← List.map_drop]
  rfl

theorem length_prepend_le {b : Buffer} {n : Nat} (hlimit : b.limit = some n) (e : DeviceEvent) :
    (b.prepend e).2.events.length ≤ n := by
  simp only [prepend, hlimit]
  exact List.length_take_le n _

end Buffer

/-- Without the numbers after the first `n`, the first `n` are left. -/
theorem filter_not_drop {seqs : List Nat} (hnodup : seqs.Nodup) (n : Nat) :
    seqs.filter (fun k => !(seqs.drop n).contains k) = seqs.take n := by
  have hsplit := List.take_append_drop n seqs
  rw [← hsplit] at hnodup
  have hdisjoint := (List.nodup_append.mp hnodup).2.2
  conv_lhs => rw [← hsplit]
  rw [List.filter_append, hsplit]
  have hfirst : (seqs.take n).filter (fun k => !(seqs.drop n).contains k) = seqs.take n := by
    refine List.filter_eq_self.mpr fun k hk => ?_
    rw [Bool.not_eq_true', List.contains_eq_mem, decide_eq_false_iff_not]
    exact fun hk' => hdisjoint k hk k hk' rfl
  have hlast : (seqs.drop n).filter (fun k => !(seqs.drop n).contains k) = [] := by
    refine List.filter_eq_nil_iff.mpr fun k hk => ?_
    rw [Bool.not_eq_true', List.contains_eq_mem, decide_eq_false_iff_not, not_not]
    exact hk
  rw [hfirst, hlast, List.append_nil]

/-! ### Rows and events -/

/-- The invariant: the numbers of the rows are those of the events, and `nextSeq` is above them. -/
structure Paired (b : Buffer) (p : Projection) : Prop where
  keys : p.keys = b.events.map Buffered.seq
  nodup : (b.events.map Buffered.seq).Nodup
  next : ∀ k ∈ b.events.map Buffered.seq, k < b.nextSeq

namespace Paired

variable {b : Buffer} {p : Projection}

theorem clear (b : Buffer) (p : Projection) : Paired b.clear p.clear where
  keys := rfl
  nodup := List.nodup_nil
  next := nofun

/-- A new event gets a row, and the rows of the evicted events are removed. -/
theorem prepend (h : Paired b p) (e : DeviceEvent) :
    Paired (b.prepend e).2 ((p.addRow (b.prepend e).1.seq).forget (b.prepend e).1.evicted) := by
  have hfresh : b.nextSeq ∉ b.events.map Buffered.seq :=
    fun hmem => Nat.lt_irrefl _ (h.next _ hmem)
  have hnodup : (b.nextSeq :: b.events.map Buffered.seq).Nodup :=
    List.nodup_cons.mpr ⟨hfresh, h.nodup⟩
  have hkept := (b.events_prepend_prefix e).map Buffered.seq
  rw [List.map_cons] at hkept
  refine { keys := ?_, nodup := hnodup.sublist hkept.sublist, next := ?_ }
  · -- The number is a new one, so that no row is replaced.
    have hrows : p.keys.filter (fun k => k != b.nextSeq) = b.events.map Buffered.seq := by
      rw [h.keys]
      refine List.filter_eq_self.mpr fun k hk => ?_
      rw [bne_iff_ne]
      exact fun heq => hfresh (heq ▸ hk)
    have hseq : (b.prepend e).1.seq = b.nextSeq := rfl
    rw [Projection.keys_forget, Projection.keys_addRow, hseq, hrows, Buffer.evicted_prepend,
      filter_not_drop hnodup]
    have htake := List.prefix_iff_eq_take.mp hkept
    rw [List.length_map] at htake
    exact htake.symm
  · intro k hk
    rcases List.mem_cons.mp (hkept.subset hk) with hk | hk
    · exact hk ▸ Nat.lt_succ_self _
    · exact Nat.lt_succ_of_lt (h.next k hk)

theorem setAll (h : Paired b p) (expanded : Bool) : Paired b (p.setAll expanded) :=
  { h with keys := (p.keys_setAll expanded).trans h.keys }

theorem toggleRow (h : Paired b p) (seq : Nat) : Paired b (p.toggleRow seq).2 :=
  { h with keys := (p.keys_toggleRow seq).trans h.keys }

/-- Every act keeps the invariant. -/
theorem act {f f' : LiveFeed} (h : Paired f.buffer f.projection) {a : LiveFeed.Act}
    (hact : f.act? a = some f') : Paired f'.buffer f'.projection := by
  cases a with
  | work k client =>
    obtain ⟨⟨_, client'⟩, hwork, rfl⟩ := Option.map_eq_some_iff.mp hact
    cases LiveFeed.works hwork with
    | told | proceeded => exact h
  | wake k =>
    obtain ⟨t, delay, -, -, rfl⟩ := LiveFeed.wake_eq_some hact
    exact h
  | take now =>
    obtain ⟨⟨update, f'⟩, htake, rfl⟩ := Option.map_eq_some_iff.mp hact
    cases LiveFeed.takes htake with
    | dropped => exact h
    | @accepted m rest k hqueue hsubscription =>
      cases m with
      | state s => exact h
      | event e => exact h.prepend e
  -- Events and rows are cleared together.
  | subscribe | setFilter filter | setDevices uuids | setCodes codes | setActions actions
  | shutdown =>
    obtain rfl := Option.some.inj hact
    exact .clear _ _
  | teardown =>
    obtain rfl := Option.some.inj hact
    rw [LiveFeed.teardown_buffer, LiveFeed.teardown_projection]
    exact h
  | setAll expanded =>
    obtain rfl := Option.some.inj hact
    exact h.setAll expanded
  | toggleRow seq =>
    obtain rfl := Option.some.inj hact
    exact h.toggleRow seq

/-- Every event has a row of its own, and is shown as the row says. -/
theorem exists_shown (h : Paired b p) {e : Buffered} (he : e ∈ b.events) :
    ∃ shown, p.isExpanded e.seq = some shown ∧ ∀ names now, (p.renderRow names now e).payload
      = if shown then .expanded e.event.data.prettyText else .collapsed := by
  have hmem : e.seq ∈ p.keys := by
    rw [h.keys]
    exact List.mem_map_of_mem he
  obtain ⟨shown, hshown⟩ := Option.isSome_iff_exists.mp ((p.isExpanded_isSome e.seq).mpr hmem)
  refine ⟨shown, hshown, fun names now => ?_⟩
  rw [p.payload_renderRow, hshown, Option.getD_some]

end Paired

/-! ### Numbers -/

/-- The numbers `n`, `n - 1` and so on down to one. -/
def countdown (n : Nat) : List Nat := (List.range' 1 n).reverse

theorem countdown_succ (n : Nat) : countdown (n + 1) = (n + 1) :: countdown n := by
  rw [countdown, List.range'_1_concat, List.reverse_append, Nat.add_comm]
  rfl

theorem nodup_countdown (n : Nat) : (countdown n).Nodup := List.nodup_reverse.mpr List.nodup_range'

/-- The record of the numbers given in a run, with their events, the last one first. -/
def noteNumber (given : List Buffered) (f : LiveFeed) : LiveFeed.Act → List Buffered
  | .take now =>
    match f.take now, f.queue with
    | some (some (.event seq), _), ⟨_, .event e⟩ :: _ => ⟨seq, e⟩ :: given
    | _, _ => given
  | _ => given

/-- The invariant: the buffer and the rows of a feed fit the numbers given so far. -/
structure Numbered (options : Options) (given : List Buffered) (f : LiveFeed) : Prop where
  paired : Paired f.buffer f.projection
  numbers : given.map Buffered.seq = countdown given.length
  nextSeq : f.buffer.nextSeq = given.length + 1
  events : f.buffer.events <+: given
  limit : f.buffer.limit = options.maxEvents.filter (0 < ·)
  within : ∀ n, f.buffer.limit = some n → f.buffer.events.length ≤ n

namespace Numbered

variable {options : Options} {given : List Buffered} {f f' : LiveFeed}

theorem start (filter : Filter) (options : Options) :
    Numbered options [] (.new filter options) where
  paired := { keys := rfl, nodup := List.nodup_nil, next := nofun }
  numbers := rfl
  nextSeq := rfl
  events := List.prefix_rfl
  limit := rfl
  within := fun n _ => Nat.zero_le n

/-- The next event gets the next number. -/
theorem accepted (h : Numbered options given f) (now : Time.Instant) (e : DeviceEvent) :
    Numbered options (⟨f.buffer.nextSeq, e⟩ :: given) (f.accept now (.event e)).2 := by
  have hnext : f.buffer.nextSeq = given.length + 1 := h.nextSeq
  refine {
    paired := h.paired.prepend e
    numbers := ?_
    nextSeq := congrArg (· + 1) hnext
    events := (f.buffer.events_prepend_prefix e).trans (List.cons_prefix_cons.mpr ⟨rfl, h.events⟩)
    limit := h.limit
    within := fun n hlimit => Buffer.length_prepend_le (b := f.buffer) hlimit e }
  rw [List.map_cons, List.length_cons, h.numbers, countdown_succ, hnext]

/-- The buffer is cleared, and the numbers go on. -/
theorem clear (h : Numbered options given f) (hpaired : Paired f'.buffer f'.projection)
    (hbuffer : f'.buffer = f.buffer.clear) : Numbered options given f' where
  paired := hpaired
  numbers := h.numbers
  nextSeq := by
    rw [hbuffer]
    exact h.nextSeq
  events := by
    rw [hbuffer]
    exact List.nil_prefix
  limit := by
    rw [hbuffer]
    exact h.limit
  within := by
    intro n _
    rw [hbuffer]
    exact Nat.zero_le n

/-- Every act keeps the invariant. -/
theorem act (h : Numbered options given f) {a : LiveFeed.Act} (hact : f.act? a = some f') :
    Numbered options (noteNumber given f a) f' := by
  have hpaired := h.paired.act hact
  cases a with
  | work k client =>
    obtain ⟨⟨_, client'⟩, hwork, rfl⟩ := Option.map_eq_some_iff.mp hact
    cases LiveFeed.works hwork with
    | told | proceeded => exact { h with }
  | wake k =>
    obtain ⟨t, delay, -, -, rfl⟩ := LiveFeed.wake_eq_some hact
    exact { h with }
  | take now =>
    obtain ⟨⟨update, f'⟩, htake, rfl⟩ := Option.map_eq_some_iff.mp hact
    rw [noteNumber, htake]
    cases LiveFeed.takes htake with
    | dropped => exact { h with }
    | @accepted m rest k hqueue hsubscription =>
      rw [hqueue]
      cases m with
      | state s => exact { h with }
      | event e =>
        -- The queue has no part in the invariant.
        have hrest : Numbered options given { f with queue := rest } := { h with }
        exact hrest.accepted now e
  | subscribe | setFilter filter | setDevices uuids | setCodes codes | setActions actions =>
    obtain rfl := Option.some.inj hact
    exact h.clear hpaired (LiveFeed.subscribe_buffer _)
  | shutdown =>
    obtain rfl := Option.some.inj hact
    exact h.clear hpaired (congrArg Buffer.clear f.teardown_buffer)
  | teardown =>
    obtain rfl := Option.some.inj hact
    obtain ⟨tasks, senders, hteardown⟩ := f.exists_teardown_eq
    rw [hteardown]
    exact { h with }
  | setAll expanded | toggleRow seq =>
    obtain rfl := Option.some.inj hact
    exact { h with paired := hpaired }

end Numbered

/-- Every run keeps the invariant, and adds to the record in front. -/
theorem Numbered.run {options : Options} {given given' : List Buffered} {f f' : LiveFeed}
    (h : Numbered options given f) (hrun : LiveFeed.Observed noteNumber given f given' f') :
    Numbered options given' f' ∧ given <:+ given' := by
  induction hrun with
  | start => exact ⟨h, List.suffix_rfl⟩
  | @act seen g g' a _ hact ih =>
    refine ⟨ih.1.act hact, ih.2.trans ?_⟩
    cases a with
    | take now =>
      rw [noteNumber]
      split
      · exact List.suffix_cons _ _
      · exact List.suffix_rfl
    | _ => exact List.suffix_rfl

/-- Each number given so far stands for one event. -/
theorem Numbered.eq_of_seq_eq {options : Options} {given : List Buffered} {f : LiveFeed}
    (h : Numbered options given f) {e e' : Buffered} (he : e ∈ given) (he' : e' ∈ given)
    (hseq : e.seq = e'.seq) : e = e' := by
  have hnodup : (given.map Buffered.seq).Nodup := h.numbers ▸ nodup_countdown _
  exact List.inj_on_of_nodup_map hnodup he he' hseq

/-! ### Runs -/

/-- In every run, the events are numbered from one on in the order in which they are accepted, and
the numbers in the buffer, newest first, go down from the last one given without a gap, within the
limit. These numbers and no others have a row, which can be toggled and by which the event is shown.
A number that was given to an event is never given to another one. -/
theorem rows_of_run (filter : Filter) (options : Options) {given : List Buffered} {f : LiveFeed}
    (h : LiveFeed.Observed noteNumber [] (.new filter options) given f) :
    given.map Buffered.seq = countdown given.length ∧
      f.buffer.events <+: given ∧
      f.buffer.events.map Buffered.seq <+: countdown given.length ∧
      (∀ n, options.maxEvents = some n → 0 < n → f.buffer.events.length ≤ n) ∧
      f.projection.keys = f.buffer.events.map Buffered.seq ∧
      (∀ seq, (f.toggleRow seq).1.isSome = true ↔ seq ∈ f.buffer.events.map Buffered.seq) ∧
      (∀ e ∈ f.buffer.events, ∃ shown, f.projection.isExpanded e.seq = some shown ∧
        ∀ names now, (f.projection.renderRow names now e).payload
          = if shown then .expanded e.event.data.prettyText else .collapsed) ∧
      ∀ given' f', LiveFeed.Observed noteNumber given f given' f' →
        ∀ e ∈ given, ∀ e' ∈ f'.buffer.events, e'.seq = e.seq → e' = e := by
  have hnumbered := ((Numbered.start filter options).run h).1
  refine ⟨hnumbered.numbers, hnumbered.events, ?_, ?_, hnumbered.paired.keys, ?_, ?_, ?_⟩
  · rw [← hnumbered.numbers]
    exact hnumbered.events.map _
  · intro n hlimit hpos
    refine hnumbered.within n ?_
    rw [hnumbered.limit, hlimit, Option.filter_some, if_pos (by simpa using hpos)]
  · intro seq
    rw [← hnumbered.paired.keys]
    exact f.projection.toggleRow_isSome seq
  · exact fun e he => hnumbered.paired.exists_shown he
  · intro given' f' hrun e he e' he' hseq
    -- The record of the later feed has both events, and each number once.
    obtain ⟨hlater, hsuffix⟩ := hnumbered.run hrun
    exact hlater.eq_of_seq_eq (hlater.events.subset he') (hsuffix.subset he) hseq

/-- A client that opens a connection on which two events arrive. -/
def twoEvents : Push.Client :=
  .ofScript [.opened ⟨[.message (.text sentEvent), .message (.text sentEvent)], false⟩]

/-- A run in which a second event evicts the first. The number of the first one is not given again.
-/
theorem rows_of_twoEvents :
    ∃ given f, LiveFeed.Observed noteNumber [] (.new .empty keepOne) given f ∧
      given = [⟨2, readEvent⟩, ⟨1, readEvent⟩] ∧ f.buffer.events = [⟨2, readEvent⟩] ∧
      f.projection.keys = f.buffer.events.map Buffered.seq ∧
      ∀ given' f', LiveFeed.Observed noteNumber given f given' f' →
        ∀ e' ∈ f'.buffer.events, e'.seq = 1 → e' = ⟨1, readEvent⟩ := by
  have harrived : ∀ arrivals, Task.arrived? ⟨.message (.text sentEvent) :: arrivals, false⟩
      = some (.passing readEvent ⟨arrivals, false⟩) := by
    intro arrivals
    simp only [Task.arrived?, event?_sentEvent]
  have hstart : LiveFeed.Observed noteNumber [] (.new .empty keepOne) []
      (.new .empty keepOne) := .start
  have hasked := (hstart.act (a := .subscribe) rfl).act (a := .work 0 twoEvents) rfl
  have hopened := (hasked.act (a := .work 0 twoEvents) rfl).act (a := .work 0 twoEvents) rfl
  have hsent := (hopened.read (k := 0) rfl rfl (harrived _) twoEvents).act
    (a := .work 0 twoEvents) rfl
  have hsent' := (hsent.read (k := 0) rfl rfl (harrived _) twoEvents).act
    (a := .work 0 twoEvents) rfl
  have htaken := (hsent'.act (a := .take ⟨0, 0⟩) rfl).act (a := .take ⟨0, 0⟩) rfl
  have htaken' := (htaken.act (a := .take ⟨0, 0⟩) rfl).act (a := .take ⟨0, 0⟩) rfl
  obtain ⟨-, -, -, -, hkeys, -, -, hlater⟩ := rows_of_run .empty keepOne htaken'
  refine ⟨_, _, htaken', rfl, rfl, hkeys, ?_⟩
  intro given' f' hrun e' he' hseq
  exact hlater given' f' hrun ⟨1, readEvent⟩ (List.mem_cons_of_mem _ List.mem_cons_self) e' he' hseq

end CameraFeed.Feed
