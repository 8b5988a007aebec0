import CameraFeed.Proofs.Feed.Tables

/-! # Columns — the places of the cells of a table

  A column is as wide as its longest cell, the header among them. Each column begins two characters
  behind the full width of the one before, so in every line a cell begins where its column does, and
  only spaces follow it up to the next cell. The lines of a payload do not change the columns. -/

namespace CameraFeed.Feed.Table

/-! ### Widths -/

/-- The width of a column is that of its longest cell. -/
structure IsWidth (lines : List (List String)) (k width : Nat) : Prop where
  le : ∀ l ∈ lines, ∀ cell ∈ l[k]?, cell.length ≤ width
  exists_eq : ∃ l ∈ lines, ∃ cell ∈ l[k]?, cell.length = width

section widths
variable {lines : List (List String)} {l : List String} {ws : List Nat} {k w : Nat}

/-- One more line makes a column as wide as its cell, if it was not. -/
theorem IsWidth.concat (h : IsWidth lines k w) {cell : String} (hcell : l[k]? = some cell) :
    IsWidth (lines ++ [l]) k (max w cell.length) := by
  constructor
  · intro l' hl' cell' hcell'
    rcases List.mem_append.mp hl' with hl' | hl'
    · exact Nat.le_trans (h.le l' hl' cell' hcell') (Nat.le_max_left _ _)
    · rw [List.mem_singleton.mp hl', hcell] at hcell'
      obtain rfl := Option.some.inj hcell'
      exact Nat.le_max_right _ _
  · rcases Nat.le_total cell.length w with hle | hle
    · obtain ⟨l', hl', cell', hcell', hlength⟩ := h.exists_eq
      refine ⟨l', List.mem_append_left _ hl', cell', hcell', ?_⟩
      rw [hlength, Nat.max_eq_left hle]
    · refine ⟨l, List.mem_append_right _ List.mem_cons_self, cell, hcell, ?_⟩
      rw [Nat.max_eq_right hle]

theorem isWidth_widen (h : ∀ k w, ws[k]? = some w → IsWidth lines k w)
    (hw : (widen ws l)[k]? = some w) : IsWidth (lines ++ [l]) k w := by
  unfold widen at hw
  rw [List.getElem?_zipWith_eq_some] at hw
  obtain ⟨width, cell, hwidth, hcell, rfl⟩ := hw
  exact (h k width hwidth).concat hcell

/-- Line by line, the columns come to be as wide as their cells. -/
theorem isWidth_foldl (more : List (List String)) (h : ∀ k w, ws[k]? = some w → IsWidth lines k w)
    (hw : (more.foldl widen ws)[k]? = some w) : IsWidth (lines ++ more) k w := by
  induction more generalizing lines ws with
  | nil =>
    rw [List.append_nil]
    exact h k w hw
  | cons l more ih =>
    have hlines : lines ++ l :: more = lines ++ [l] ++ more := by simp
    rw [hlines]
    exact ih (fun _ _ => isWidth_widen h) hw

end widths

/-- The columns of a table are as wide as the longest cell of the header and the rows. -/
theorem isWidth_widths (rows : List Row) {k w : Nat} (hw : (widths rows)[k]? = some w) :
    IsWidth (header :: rows.map cells) k w := by
  have hheader : ∀ k w, (header.map String.length)[k]? = some w → IsWidth [header] k w := by
    intro k w hw
    rw [List.getElem?_map, Option.map_eq_some_iff] at hw
    obtain ⟨cell, hcell, rfl⟩ := hw
    constructor
    · intro line hline cell' hcell'
      rw [List.mem_singleton.mp hline, hcell] at hcell'
      obtain rfl := Option.some.inj hcell'
      exact Nat.le_refl _
    · exact ⟨header, List.mem_cons_self, cell, hcell, rfl⟩
  exact isWidth_foldl (rows.map cells) hheader hw

/-! ### Places -/

/-- Where a column begins: two characters behind the full width of each column before it. -/
def start (ws : List Nat) (k : Nat) : Nat := (ws.take k).foldr (fun w n => w + 2 + n) 0

/-- Cells in a line, all but the last filled up to their widths. -/
def placed (ws : List Nat) (before : List String) (last : List Char) : List Char :=
  Text.joinWith [' ', ' '] (List.zipWith padded ws before ++ [last])

/-- The next column begins when a column's width and two characters are over. -/
theorem start_succ {ws : List Nat} {k w : Nat} (hw : ws[k]? = some w) :
    start ws (k + 1) = start ws k + w + 2 := by
  induction ws generalizing k with
  | nil => cases hw
  | cons v ws ih =>
    cases k with
    | zero =>
      obtain rfl := Option.some.inj hw
      simp [start]
    | succ k =>
      show v + 2 + start ws (k + 1) = v + 2 + start ws k + w + 2
      rw [ih hw]
      omega

/-- The first cell has the spaces that are left of its column behind it, and two more. -/
theorem placed_cons (w : Nat) (ws : List Nat) (cell : String) (before : List String)
    (last : List Char) :
    placed (w :: ws) (cell :: before) last
      = cell.toList ++ List.replicate (w - cell.length + 2) ' ' ++ placed ws before last := by
  have hne : List.zipWith padded ws before ++ [last] ≠ [] := by simp
  obtain ⟨next, rest, hrest⟩ := List.exists_cons_of_ne_nil hne
  unfold placed
  rw [List.zipWith_cons_cons, List.cons_append, hrest, Text.joinWith_cons_cons, padded,
    ← List.replicate_append_replicate]
  simp

/-- There is a width for each cell, and the cell fits into it. -/
structure Fits (ws : List Nat) (cells : List String) : Prop where
  length_eq : ws.length = cells.length
  le : ∀ (k w : Nat) (cell : String), ws[k]? = some w → cells[k]? = some cell → cell.length ≤ w

namespace Fits

variable {ws : List Nat} {before : List String} {last : List Char} {k : Nat}

theorem tail {w : Nat} {cell : String} (h : Fits (w :: ws) (cell :: before)) : Fits ws before where
  length_eq := Nat.succ.inj h.length_eq
  le := fun k => h.le (k + 1)

/-- From the start of a column on, a line has its cell and those behind it. -/
theorem drop_placed (h : Fits ws before) (hk : k ≤ before.length) :
    (placed ws before last).drop (start ws k) = placed (ws.drop k) (before.drop k) last := by
  induction k generalizing ws before with
  | zero => rfl
  | succ k ih =>
    cases before with
    | nil => cases hk
    | cons cell before =>
      cases ws with
      | nil => cases h.length_eq
      | cons w ws =>
        -- The first cell and its spaces take the width of its column and two characters more.
        have hcell : cell.length ≤ w := h.le 0 w cell rfl rfl
        have hfull : (cell.toList ++ List.replicate (w - cell.length + 2) ' ').length = w + 2 := by
          rw [List.length_append, List.length_replicate, String.length_toList]
          omega
        have hrest := ih h.tail (Nat.le_of_succ_le_succ hk)
        show (placed (w :: ws) (cell :: before) last).drop (w + 2 + start ws k) = _
        rw [placed_cons, ← List.drop_drop, List.drop_left' hfull, hrest]
        rfl

/-- The next column begins two characters behind the width of a cell's column. -/
theorem exists_width (h : Fits ws before) {cell : String} (hcell : before[k]? = some cell) :
    ∃ w, ws[k]? = some w ∧ cell.length ≤ w ∧ start ws (k + 1) = start ws k + w + 2 := by
  obtain ⟨hk, -⟩ := List.getElem?_eq_some_iff.mp hcell
  have hk' : k < ws.length := by
    rw [h.length_eq]
    exact hk
  have hw : ws[k]? = some ws[k] := List.getElem?_eq_getElem hk'
  exact ⟨_, hw, h.le k _ cell hw hcell, start_succ hw⟩

/-- From the start of a column on, a line has the cell, its padding, and the text from the next
column on. -/
theorem drop_placed_start (h : Fits ws before) {cell : String} (hcell : before[k]? = some cell) :
    (placed ws before last).drop (start ws k)
      = cell.toList ++ List.replicate (start ws (k + 1) - (start ws k + cell.length)) ' '
        ++ (placed ws before last).drop (start ws (k + 1)) := by
  obtain ⟨w, hw, hle, hnext⟩ := h.exists_width hcell
  obtain ⟨hk, rfl⟩ := List.getElem?_eq_some_iff.mp hcell
  obtain ⟨hk', rfl⟩ := List.getElem?_eq_some_iff.mp hw
  have hspaces : start ws (k + 1) - (start ws k + before[k].length)
      = ws[k] - before[k].length + 2 := by omega
  rw [h.drop_placed (Nat.le_of_lt hk), h.drop_placed hk, List.drop_eq_getElem_cons hk',
    List.drop_eq_getElem_cons hk, placed_cons, hspaces]

end Fits

/-! ### Lines -/

/-- The text is not empty and does not end in white space. -/
def Closed (s : String) : Prop := ∃ init x, s.toList = init ++ [x] ∧ Text.isBlank x = false

/-- Each cell stands where its column begins, and the text has nothing but spaces besides. -/
structure Aligned (begins : Nat → Nat) (cells : List String) (text : List Char) : Prop where
  /-- Two cells are two spaces apart at least. -/
  apart : ∀ k cell, cells[k]? = some cell → k + 1 < cells.length →
    begins k + cell.length + 2 ≤ begins (k + 1)
  /-- From where a column begins there is its cell, and spaces up to where the next one begins. -/
  cell : ∀ k cell, cells[k]? = some cell → k + 1 < cells.length →
    text.drop (begins k) = cell.toList
      ++ List.replicate (begins (k + 1) - (begins k + cell.length)) ' '
      ++ text.drop (begins (k + 1))
  /-- From where the last column begins there is its cell, and nothing else. -/
  last : ∀ cell, cells[cells.length - 1]? = some cell →
    text.drop (begins (cells.length - 1)) = cell.toList
  trimmed : ∀ c ∈ text.getLast?, Text.isBlank c = false

/-- A line whose last cell does not end in white space has its cells in their places. -/
theorem aligned_line {ws : List Nat} {before : List String} (h : Fits ws before) (w : Nat)
    {last : String} (hlast : Closed last) :
    Aligned (start (ws ++ [w])) (before ++ [last]) (line (ws ++ [w]) (before ++ [last])) := by
  obtain ⟨init, x, hchars, hx⟩ := hlast
  have hline : line (ws ++ [w]) (before ++ [last]) = placed ws before last.toList :=
    line_concat h.length_eq w hchars hx
  -- The width of the last column is never filled up, so no other column depends on it.
  have hstart : ∀ k, k ≤ before.length → start (ws ++ [w]) k = start ws k := by
    intro k hk
    unfold start
    rw [List.take_append_of_le_length (h.length_eq ▸ hk)]
  have hbefore : ∀ k cell, (before ++ [last])[k]? = some cell → k + 1 < (before ++ [last]).length →
      k < before.length ∧ before[k]? = some cell := by
    intro k cell hcell hk
    have hk' : k < before.length := by simpa using hk
    rw [List.getElem?_append_left hk'] at hcell
    exact ⟨hk', hcell⟩
  refine ⟨?_, ?_, ?_, ?_⟩
  · intro k cell hcell hk
    obtain ⟨hk', hcell'⟩ := hbefore k cell hcell hk
    rw [hstart k (Nat.le_of_lt hk'), hstart (k + 1) hk']
    obtain ⟨w, -, hle, hnext⟩ := h.exists_width hcell'
    omega
  · intro k cell hcell hk
    obtain ⟨hk', hcell'⟩ := hbefore k cell hcell hk
    rw [hline, hstart k (Nat.le_of_lt hk'), hstart (k + 1) hk']
    exact h.drop_placed_start hcell'
  · intro cell hcell
    have hcount : (before ++ [last]).length - 1 = before.length := by simp
    rw [hcount] at hcell ⊢
    obtain rfl : last = cell := by simpa using hcell
    rw [hline, hstart _ (Nat.le_refl _), h.drop_placed (Nat.le_refl _), List.drop_length,
      ← h.length_eq, List.drop_length]
    rfl
  · intro c hc
    unfold line at hc
    exact Text.notBlank_of_getLast?_trimEnd hc

/-- The cells of a line in a table fit into the columns. -/
theorem fits_widths {rows : List Row} {ws : List Nat} {w : Nat} (hws : widths rows = ws ++ [w])
    {before : List String} {last : String} (hlength : ws.length = before.length)
    (hmem : before ++ [last] ∈ header :: rows.map cells) : Fits ws before where
  length_eq := hlength
  le := by
    intro k width cell hwidth hcell
    obtain ⟨hk, -⟩ := List.getElem?_eq_some_iff.mp hwidth
    obtain ⟨hk', -⟩ := List.getElem?_eq_some_iff.mp hcell
    rw [← List.getElem?_append_left hk, ← hws] at hwidth
    rw [← List.getElem?_append_left hk'] at hcell
    exact (isWidth_widths rows hwidth).le _ hmem cell hcell

/-- In a table, a line whose last cell does not end in white space is aligned. -/
theorem aligned_of_mem {rows : List Row} {before : List String} {last : String}
    (hmem : before ++ [last] ∈ header :: rows.map cells)
    (hlength : header.dropLast.length = before.length) (hlast : Closed last) :
    Aligned (start (widths rows)) (before ++ [last]) (line (widths rows) (before ++ [last])) := by
  obtain ⟨ws, w, hws, hwidths⟩ := exists_widths_eq rows
  have hfits : Fits ws before := fits_widths hws (hwidths.trans hlength) hmem
  rw [hws]
  exact aligned_line hfits w hlast

/-! ### The main statement -/

/-- The columns of a table are as wide as their longest cells. Its lines are that of the header and
those of the rows, each with the lines of its payload below. In that of the header, and in that of
each row whose last cell is not empty and does not end in white space, every cell begins where its
column does and has only spaces behind it, two at least, up to the next, and the line ends with the
last cell. Whatever the payloads are, the columns are the same. The last cell of a row that is
rendered is as it should be. -/
theorem columns_of_table (rows : List Row) :
    (∀ k, k < header.length →
      ∃ w, (widths rows)[k]? = some w ∧ IsWidth (header :: rows.map cells) k w) ∧
    (text rows).toList = Text.ended (line (widths rows) header ::
      rows.flatMap fun r => line (widths rows) (cells r) :: payloadLines r.payload) ∧
    Aligned (start (widths rows)) header (line (widths rows) header) ∧
    (∀ r ∈ rows, Closed r.created →
      Aligned (start (widths rows)) (cells r) (line (widths rows) (cells r))) ∧
    (∀ payload : Row → Payload,
      widths (rows.map fun r => { r with payload := payload r }) = widths rows) ∧
    ∀ (p : Projection) (events : List Buffered) (names : Directory) (now : Time.Instant),
      ∀ r ∈ p.render events names now, Closed r.created := by
  refine ⟨?_, toList_text rows, ?_, ?_, ?_, ?_⟩
  · intro k hk
    rw [← length_widths rows] at hk
    have hw : (widths rows)[k]? = some (widths rows)[k] := List.getElem?_eq_getElem hk
    exact ⟨_, hw, isWidth_widths rows hw⟩
  -- The header is a line like any other, and its last name is closed.
  · have hclosed : Closed "CREATED" := ⟨"CREATE".toList, 'D', rfl, by decide⟩
    have hheader : header = header.dropLast ++ ["CREATED"] := rfl
    rw [hheader]
    exact aligned_of_mem (hheader ▸ List.mem_cons_self) rfl hclosed
  · intro r hr hcreated
    have hcells : cells r = (cells r).dropLast ++ [r.created] := rfl
    have hmem : cells r ∈ header :: rows.map cells :=
      List.mem_cons_of_mem _ (List.mem_map_of_mem hr)
    rw [hcells] at hmem ⊢
    exact aligned_of_mem hmem rfl hcreated
  · intro payload
    have hcells : (cells ∘ fun r : Row => { r with payload := payload r }) = cells := rfl
    unfold widths
    rw [List.map_map, hcells]
  · intro p events names now r hr
    obtain ⟨b, -, rfl⟩ := List.mem_map.mp hr
    exact exists_relativeText b.event.createdAt now

/-- A row with an empty cell, letters beyond ASCII, and a payload that is longer than all of it. -/
def wideRow : Row :=
  ⟨12, "é", "", "Übergang", "b", -3, "in 1 hour",
    .expanded "[0, 1, 2, 3, 4, 5, 6, 7, 8, 9, 10, 11]"⟩

theorem columns_of_wideRow :
    Closed wideRow.created ∧
      (List.range 7).map (start (widths [wideRow])) = [0, 4, 8, 16, 26, 34, 41] ∧
      Aligned (start (widths [wideRow])) (cells wideRow)
        (line (widths [wideRow]) (cells wideRow)) ∧
      line (widths [wideRow]) (cells wideRow)
        = "12  é           Übergang  b       -3     in 1 hour".toList := by
  obtain ⟨-, -, -, hrows, -⟩ := columns_of_table [wideRow]
  have hclosed : Closed wideRow.created := ⟨"in 1 hou".toList, 'r', rfl, by decide⟩
  exact ⟨hclosed, by decide +kernel, hrows wideRow List.mem_cons_self hclosed, by decide +kernel⟩

end CameraFeed.Feed.Table
