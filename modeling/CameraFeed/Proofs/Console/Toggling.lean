import CameraFeed.Proofs.Console.Runs
import CameraFeed.Proofs.Feed.Expansion
import CameraFeed.Proofs.Feed.Tables

/-! # Toggling — a row is toggled by the number it shows

  Each line of a table begins with the number of its row. `toggled_of_line` says that such a number
  after `toggle` flips the setting of that row and of no other one, that the same line a second time
  restores the feed, and that any other number is answered with a message and changes nothing. -/

namespace CameraFeed

namespace Feed

/-! ### Toggling a row -/

namespace Projection

variable {p : Projection}

/-- Among rows of different numbers, each one has its own setting. -/
theorem lookup_of_mem {rows : List (Nat × Bool)} (hnodup : (rows.map Prod.fst).Nodup)
    {row : Nat × Bool} (hrow : row ∈ rows) : rows.lookup row.1 = some row.2 := by
  induction rows with
  | nil => cases hrow
  | cons first rest ih =>
    obtain ⟨hfirst, hrest⟩ := List.nodup_cons.mp hnodup
    rw [List.lookup_cons]
    rcases List.mem_cons.mp hrow with rfl | hrow
    · rw [beq_self_eq_true]
    · have hne : (row.1 == first.1) = false := by
        rw [beq_eq_false_iff_ne]
        intro heq
        exact hfirst (heq ▸ List.mem_map_of_mem hrow)
      rw [hne]
      exact ih hrest hrow

/-- Toggling a row twice changes nothing. -/
theorem toggleRow_toggleRow (hnodup : p.keys.Nodup) (seq : Nat) :
    ((p.toggleRow seq).2.toggleRow seq).2 = p := by
  cases hseq : p.isExpanded seq with
  | none => simp [toggleRow_of_none hseq]
  | some b =>
    have hflipped : (p.toggleRow seq).2.isExpanded seq = some !b := by
      simp [isExpanded_toggleRow, hseq]
    rw [toggleRow_of_some hflipped, toggleRow_of_some hseq]
    -- The row has no other entry, so the second time the first setting is put back everywhere.
    have hrows : ∀ row ∈ p.rows, row.1 = seq → row = (seq, b) := by
      intro row hrow heq
      have hlookup : p.isExpanded row.1 = some row.2 := lookup_of_mem hnodup hrow
      rw [heq, hseq] at hlookup
      exact Prod.ext heq (Option.some.inj hlookup).symm
    have hsame : p.rows.map ((fun row => if row.1 = seq then (seq, !(!b)) else row)
        ∘ fun row => if row.1 = seq then (seq, !b) else row) = p.rows := by
      conv_rhs => rw [← List.map_id p.rows]
      refine List.map_congr_left fun row hrow => ?_
      by_cases heq : row.1 = seq
      · simp [hrows row hrow heq]
      · simp [heq]
    simp only [List.map_map, hsame]

/-- The payload of a row whose setting is flipped. -/
def flipped (data : Json) : Payload → Payload
  | .collapsed => .expanded data.prettyText
  | .expanded _ | .failed _ => .collapsed

/-- Toggling a row flips its payload and leaves every other row as it is. -/
theorem renderRow_toggleRow {seq : Nat} (hseq : seq ∈ p.keys) (names : Directory)
    (now : Time.Instant) (e : Buffered) :
    (p.toggleRow seq).2.renderRow names now e
      = if e.seq = seq then { p.renderRow names now e with
          payload := flipped e.event.data (p.renderRow names now e).payload }
        else p.renderRow names now e := by
  unfold renderRow
  rw [isExpanded_toggleRow, byDefault_toggleRow]
  by_cases he : e.seq = seq
  · obtain ⟨b, hb⟩ := Option.isSome_iff_exists.mp ((p.isExpanded_isSome seq).mpr hseq)
    rw [if_pos he, if_pos he, he, hb]
    cases b <;> rfl
  · rw [if_neg he, if_neg he]

end Projection

/-- `Flips f seq f'`: the setting of one row is flipped, and everything else is the same. -/
structure LiveFeed.Flips (f : LiveFeed) (seq : Nat) (f' : LiveFeed) : Prop where
  /-- All fields but the projection are the same. -/
  rest : { f' with projection := f.projection } = f
  byDefault : f'.projection.byDefault = f.projection.byDefault
  setting : f'.projection.isExpanded seq = (f.projection.isExpanded seq).map not
  others : ∀ k, k ≠ seq → f'.projection.isExpanded k = f.projection.isExpanded k
  shown : ∀ names now, f'.rows names now = f.buffer.events.map fun e =>
    if e.seq = seq then { f.projection.renderRow names now e with
      payload := Projection.flipped e.event.data (f.projection.renderRow names now e).payload }
    else f.projection.renderRow names now e

theorem LiveFeed.flips_toggleRow {f : LiveFeed} {seq : Nat} (hseq : seq ∈ f.projection.keys) :
    f.Flips seq (f.toggleRow seq).2 where
  rest := rfl
  byDefault := f.projection.byDefault_toggleRow seq
  setting := by
    have hsetting := f.projection.isExpanded_toggleRow seq seq
    rwa [if_pos rfl] at hsetting
  others := by
    intro k hk
    have hsetting := f.projection.isExpanded_toggleRow seq k
    rwa [if_neg hk] at hsetting
  shown := by
    intro names now
    exact List.map_congr_left fun e _ => Projection.renderRow_toggleRow hseq names now e

/-! ### Numbers in a table -/

/-- Numbers count down from the last one. -/
theorem mem_countdown {n k : Nat} (h : k ∈ countdown n) : k ≤ n := by
  simp only [countdown, List.mem_reverse, List.mem_range'_1] at h
  omega

namespace Table

/-- The text of a row in the column of a name. -/
def cell? (column : String) (r : Row) : Option String := (header.zip (cells r)).lookup column

end Table

end Feed

namespace Console

open Feed (Command LiveFeed)

/-! ### Lines -/

/-- A number after the name of the command is the number of a row. -/
theorem read_toggle {n : Nat} (h : n < Decimal.wordLimit) :
    Command.read ("toggle " ++ Decimal.text n) = .ok (.toggle n) := by
  have hname : Text.IsWord "toggle".toList := Text.isWord_of_all (by decide) (by decide)
  have hnumber : Text.IsWord (Decimal.text n).toList := by simp [Decimal.isWord_digits]
  have hline : "toggle " ++ Decimal.text n = "toggle" ++ " " ++ Decimal.text n := rfl
  have hread : Command.toggleOf (Decimal.text n) = .ok (.toggle n) := by
    simp [Command.toggleOf, Decimal.readPlus?_digits h]
  unfold Command.read
  rw [hline, Text.wordsOf_append hname, Text.wordsOf_of_isWord hnumber]
  exact hread

/-- `Shows c f shown s`: the console `c` asked its screen for the outputs of `shown`, one after
another up to the first one that fails, and went on as `s`, with the feed `f`. -/
structure Shows (c : Console) (f : LiveFeed) (shown : Shown) (s : Session) : Prop where
  feed : s.feed = f
  console : s.console = { c with screen := (c.screen.putAll (shown.outputs c.clears)).1 }
  ending : s.ending = match (c.screen.putAll (shown.outputs c.clears)).2 with
    | .ok () => none
    | .error reason => some (.failed reason)

section step
variable {n : Nat} (c : Console) {f : LiveFeed} (now : Time.Instant)

theorem perform_toggle (hrow : n ∈ f.projection.keys) :
    c.perform f (.toggle n) = ((f.toggleRow n).2, .draw) := by
  have hredraws : (Command.toggle n).redraws f = true := List.contains_iff_mem.mpr hrow
  rw [perform_eq, hredraws]
  rfl

theorem perform_toggle_of_notMem (hrow : n ∉ f.projection.keys) :
    c.perform f (.toggle n) = (f, .message ("No row " ++ Decimal.text n)) := by
  have hredraws : (Command.toggle n).redraws f = false := by
    rw [Command.redraws, Bool.eq_false_iff, ne_eq, List.contains_iff_mem]
    exact hrow
  have hsame : (Command.toggle n).effect f = f :=
    congrArg (fun p => { f with projection := p })
      (congrArg Prod.snd (Feed.Projection.toggleRow_of_notMem hrow))
  rw [perform_eq, hredraws, hsame]
  rfl

/-- The line toggles a row of the feed, and a drawing follows. -/
theorem step_toggle (h : n < Decimal.wordLimit) (hrow : n ∈ f.projection.keys) :
    Shows c (f.toggleRow n).2 (.drawing (f.toggleRow n).2 c.directory now)
      (Session.step ⟨c, f, none⟩ now (.line ("toggle " ++ Decimal.text n))) := by
  have htakes := Session.takeLine_of_command (s := ⟨c, f, none⟩) (read_toggle h) (by simp) now
  rw [perform_toggle c hrow] at htakes
  have hstep : Session.step ⟨c, f, none⟩ now (.line ("toggle " ++ Decimal.text n)) = _ := htakes
  rw [hstep]
  exact ⟨rfl, rfl, rfl⟩

/-- If the feed has no such row, a message follows. -/
theorem step_toggle_of_notMem (h : n < Decimal.wordLimit) (hrow : n ∉ f.projection.keys) :
    Shows c f (.message ("No row " ++ Decimal.text n))
      (Session.step ⟨c, f, none⟩ now (.line ("toggle " ++ Decimal.text n))) := by
  have htakes := Session.takeLine_of_command (s := ⟨c, f, none⟩) (read_toggle h) (by simp) now
  rw [perform_toggle_of_notMem c hrow] at htakes
  have hstep : Session.step ⟨c, f, none⟩ now (.line ("toggle " ++ Decimal.text n)) = _ := htakes
  rw [hstep]
  exact ⟨rfl, rfl, rfl⟩

end step

/-! ### The main statement -/

/-- In every feed that a run leads to, the text in the number column of a row is the first word of
its line. As an argument of `toggle` it flips the setting of that row, leaves all else as it is, and
one drawing of the new feed follows; the same line once more restores the feed. Any other number is
answered with a message, and the feed stays as it is. A number is a word of 64 bits; that of a row
is one as long as the number of all events that were added is. -/
theorem toggled_of_line {filter : Filter} {options : Feed.Options} {given : List Feed.Buffered}
    {f : LiveFeed} (h : LiveFeed.Observed Feed.noteNumber [] (.new filter options) given f)
    (c : Console) (now : Time.Instant) :
    (∀ r ∈ f.rows c.directory now, r.seq ≤ given.length ∧ ∃ cell,
      Feed.Table.cell? "#" r = some cell ∧
        (Text.words (Feed.Table.line (Feed.Table.widths (f.rows c.directory now))
          (Feed.Table.cells r))).head? = some cell.toList ∧
        (r.seq < Decimal.wordLimit → ∃ f', f.Flips r.seq f' ∧
          Shows c f' (.drawing f' c.directory now)
            (Session.step ⟨c, f, none⟩ now (.line ("toggle " ++ cell))) ∧
          ∀ c' now', Shows c' f (.drawing f c'.directory now')
            (Session.step ⟨c', f', none⟩ now' (.line ("toggle " ++ cell))))) ∧
    ∀ n, n < Decimal.wordLimit → (∀ r ∈ f.rows c.directory now, r.seq ≠ n) →
      Shows c f (.message ("No row " ++ Decimal.text n))
        (Session.step ⟨c, f, none⟩ now (.line ("toggle " ++ Decimal.text n))) := by
  have hnumbered := ((Feed.Numbered.start filter options).run h).1
  -- In every run, the rows are those of the events, with the numbers given so far.
  have hkeys := hnumbered.paired.keys
  have hnodup : f.projection.keys.Nodup := hkeys ▸ hnumbered.paired.nodup
  refine ⟨?_, ?_⟩
  · intro r hr
    obtain ⟨e, he, rfl⟩ := List.mem_map.mp hr
    have hrow : e.seq ∈ f.projection.keys := hkeys ▸ List.mem_map_of_mem he
    have hgiven : e.seq ∈ given.map Feed.Buffered.seq :=
      List.mem_map_of_mem (hnumbered.events.subset he)
    rw [hnumbered.numbers] at hgiven
    refine ⟨Feed.mem_countdown hgiven, Decimal.text e.seq, rfl, ?_, fun hlimit =>
      ⟨(f.toggleRow e.seq).2, LiveFeed.flips_toggleRow hrow, step_toggle c now hlimit hrow, ?_⟩⟩
    · rw [Decimal.toList_text]
      exact Feed.Table.head?_words_line _ _
    · intro c' now'
      have hrow' : e.seq ∈ (f.toggleRow e.seq).2.projection.keys := by
        rw [← f.projection.keys_toggleRow e.seq] at hrow
        exact hrow
      -- The row is there after the first flip, and the second one restores its setting.
      have hback : ((f.toggleRow e.seq).2.toggleRow e.seq).2 = f := by
        have hrows := Feed.Projection.toggleRow_toggleRow hnodup e.seq
        exact congrArg (fun p => { f with projection := p }) hrows
      have hshows := step_toggle (n := e.seq) c' now' hlimit hrow'
      rw [hback] at hshows
      exact hshows
  · intro n hn hother
    have hrow : n ∉ f.projection.keys := by
      intro hmem
      rw [hkeys] at hmem
      obtain ⟨e, he, rfl⟩ := List.mem_map.mp hmem
      exact hother _ (List.mem_map_of_mem he) rfl
    exact step_toggle_of_notMem c now hn hrow

/-- The second of two events took the place of the first. It has the row with number 2, which is
expanded and collapsed again. -/
theorem toggled_of_secondEvent :
    ∃ given f f', LiveFeed.Observed Feed.noteNumber [] (.new .empty Feed.keepOne) given f ∧
      f.buffer.events.map Feed.Buffered.seq = [2] ∧
      f.projection.isExpanded 2 = some false ∧ f'.projection.isExpanded 2 = some true ∧
      Shows plainConsole f' (.drawing f' .empty ⟨0, 0⟩)
        (Session.step ⟨plainConsole, f, none⟩ ⟨0, 0⟩ (.line "toggle 2")) ∧
      Shows plainConsole f (.drawing f .empty ⟨1, 0⟩)
        (Session.step ⟨plainConsole, f', none⟩ ⟨1, 0⟩ (.line "toggle 2")) ∧
      Shows plainConsole f (.message "No row 1")
        (Session.step ⟨plainConsole, f, none⟩ ⟨0, 0⟩ (.line "toggle 1")) := by
  have harrived : ∀ arrivals,
      Feed.Task.arrived? ⟨.message (.text Feed.sentEvent) :: arrivals, false⟩
        = some (.passing Feed.readEvent ⟨arrivals, false⟩) := by
    intro arrivals
    simp only [Feed.Task.arrived?, Feed.event?_sentEvent]
  have hstart : LiveFeed.Observed Feed.noteNumber [] (.new .empty Feed.keepOne) []
      (.new .empty Feed.keepOne) := .start
  have hasked := (hstart.act (a := .subscribe) rfl).act (a := .work 0 Feed.twoEvents) rfl
  have hopened := (hasked.act (a := .work 0 Feed.twoEvents) rfl).act
    (a := .work 0 Feed.twoEvents) rfl
  have hsent := (hopened.read (k := 0) rfl rfl (harrived _) Feed.twoEvents).act
    (a := .work 0 Feed.twoEvents) rfl
  have hsent' := (hsent.read (k := 0) rfl rfl (harrived _) Feed.twoEvents).act
    (a := .work 0 Feed.twoEvents) rfl
  have htaken := (hsent'.act (a := .take ⟨0, 0⟩) rfl).act (a := .take ⟨0, 0⟩) rfl
  have htaken' := (htaken.act (a := .take ⟨0, 0⟩) rfl).act (a := .take ⟨0, 0⟩) rfl
  obtain ⟨hrows, hothers⟩ := toggled_of_line htaken' plainConsole ⟨0, 0⟩
  obtain ⟨-, cell, hcell, -, htoggled⟩ := hrows _ List.mem_cons_self
  obtain ⟨f', hflips, hstep, hback⟩ := htoggled (by decide)
  obtain rfl := Option.some.inj hcell
  refine ⟨_, _, f', htaken', rfl, rfl, hflips.setting, hstep, hback _ _, ?_⟩
  refine hothers 1 (by decide) ?_
  intro r hr
  obtain rfl := List.mem_singleton.mp hr
  decide

end Console

end CameraFeed
