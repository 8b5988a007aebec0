import CameraFeed.Feed.Live
import CameraFeed.Feed.Table
import CameraFeed.Proofs.Decimal.Numeral
import CameraFeed.Proofs.Feed.Rows
import CameraFeed.Proofs.Text.Words

/-! # Tables — the lines of a table

  A row takes one line of cells, and the lines of its payload below it. The cells are written
  verbatim: no character of a cell is lost, and none is escaped. So the lines of a table are those
  of its rows and payloads exactly if no cell has a line feed in it. -/

namespace CameraFeed.Feed

/-! ### Times -/

/-- A time ends with a letter. -/
theorem exists_relativeText (before now : Time.Instant) :
    ∃ init x, (Time.relativeText before now).toList = init ++ [x] ∧ Text.isBlank x = false := by
  unfold Time.relativeText
  cases Time.Relative.of before now with
  | justNow => exact ⟨"just no".toList, 'w', rfl, by decide⟩
  | ago amount unit =>
    refine ⟨(Time.Relative.amountText amount unit ++ " ag").toList, 'o', ?_, by decide⟩
    simp [Time.Relative.text]
  | ahead amount unit =>
    have hname : ∃ init x, unit.name.toList = init ++ [x] ∧ Text.isBlank x = false := by
      cases unit with
      | second => exact ⟨"secon".toList, 'd', rfl, by decide⟩
      | minute => exact ⟨"minut".toList, 'e', rfl, by decide⟩
      | hour => exact ⟨"hou".toList, 'r', rfl, by decide⟩
      | day => exact ⟨"da".toList, 'y', rfl, by decide⟩
    obtain ⟨init, x, hname, hx⟩ := hname
    by_cases hone : amount = 1
    · refine ⟨("in " ++ Decimal.text amount ++ " ").toList ++ init, x, ?_, hx⟩
      simp [Time.Relative.text, Time.Relative.amountText, hone, hname]
    · refine ⟨("in " ++ Decimal.text amount ++ " " ++ unit.name).toList, 's', ?_, by decide⟩
      simp [Time.Relative.text, Time.Relative.amountText, hone]

theorem feed_notMem_digits (n : Nat) : '\n' ∉ Decimal.digits n := by
  intro h
  exact absurd (Decimal.isDigit_of_mem_digits h) (by decide)

/-- The text of a time is on one line. -/
theorem feed_notMem_relativeText (before now : Time.Instant) :
    '\n' ∉ (Time.relativeText before now).toList := by
  have hamount : ∀ amount unit, '\n' ∉ (Time.Relative.amountText amount unit).toList := by
    intro amount unit
    have hname : '\n' ∉ unit.name.toList := by cases unit <;> decide
    have hplural : '\n' ∉ (if amount = 1 then "" else "s").toList := by split <;> decide
    simp [Time.Relative.amountText, feed_notMem_digits, hname, hplural]
  unfold Time.relativeText
  cases Time.Relative.of before now with
  | justNow => decide
  | ago amount unit => simp [Time.Relative.text, hamount]
  | ahead amount unit => simp [Time.Relative.text, hamount]

namespace Table

/-! ### Cells in a line -/

theorem length_widen (ws : List Nat) (line : List String) (h : ws.length = line.length) :
    (widen ws line).length = ws.length := by
  simp [widen, h]

/-- There is a width for each column. -/
theorem length_widths (rows : List Row) : (widths rows).length = header.length := by
  have hfold : ∀ (ws : List Nat) (lines : List (List String)),
      (∀ line ∈ lines, ws.length = line.length) → (lines.foldl widen ws).length = ws.length := by
    intro ws lines
    induction lines generalizing ws with
    | nil => exact fun _ => rfl
    | cons line lines ih =>
      intro hlines
      have hline := length_widen ws line (hlines line (by simp))
      rw [List.foldl_cons, ih _ fun l hl => hline.trans (hlines l (by simp [hl])), hline]
  rw [widths, hfold]
  · simp
  -- Each line has as many cells as there are columns.
  · intro line hline
    obtain ⟨r, -, rfl⟩ := List.mem_map.mp hline
    rfl

/-- A line is its first cell, followed by white space unless the line ends there. -/
theorem exists_joinWith_padded (w : Nat) (cell : String) (more : List (List Char)) :
    ∃ rest, Text.joinWith [' ', ' '] (padded w cell :: more) = cell.toList ++ rest ∧
      ∀ c ∈ rest.head?, c = ' ' := by
  have hspaces : ∀ k, ∀ c ∈ (List.replicate k ' ').head?, c = ' ' := by
    intro k c hc
    exact List.eq_of_mem_replicate (List.mem_of_head? hc)
  cases more with
  | nil => exact ⟨_, rfl, hspaces _⟩
  | cons next more =>
    refine ⟨List.replicate (w - cell.length) ' '
      ++ ([' ', ' '] ++ Text.joinWith [' ', ' '] (next :: more)), ?_, ?_⟩
    · rw [Text.joinWith_cons_cons, padded]
      simp
    · intro c hc
      -- After the cell comes its padding, or the gap between two columns if there is none.
      rcases Nat.eq_zero_or_pos (w - cell.length) with hzero | hpos
      · simp [hzero] at hc
        exact hc.symm
      · obtain ⟨k, hk⟩ := Nat.exists_eq_succ_of_ne_zero (Nat.ne_of_gt hpos)
        simp [hk, List.replicate_succ] at hc
        exact hc.symm

/-- The line of a row is its number, followed by white space unless the line ends there. -/
theorem exists_line_eq (rows : List Row) (r : Row) :
    ∃ rest, line (widths rows) (cells r) = Decimal.digits r.seq ++ rest ∧
      ∀ c ∈ rest.head?, c = ' ' := by
  have hlength := length_widths rows
  cases hwidths : widths rows with
  | nil => simp [hwidths, header] at hlength
  | cons w ws =>
    have hcells : List.zipWith padded (w :: ws) (cells r)
        = padded w (Decimal.text r.seq) :: List.zipWith padded ws (cells r).tail := rfl
    obtain ⟨rest, hrest, hspace⟩ := exists_joinWith_padded w (Decimal.text r.seq)
      (List.zipWith padded ws (cells r).tail)
    rw [line, hcells, hrest, Decimal.toList_text, Text.trimEnd_append (Decimal.isWord_digits r.seq)]
    refine ⟨_, rfl, ?_⟩
    intro c hc
    -- Trimming keeps the beginning of the text after the number.
    obtain ⟨trimmed, htrimmed⟩ := Text.trimEnd_prefix rest
    have hfirst : c ∈ rest.head? := by
      rw [← htrimmed, List.head?_append, hc]
      rfl
    exact hspace c hfirst

/-- The line of a row begins with its number. -/
theorem head?_words_line (rows : List Row) (r : Row) :
    (Text.words (line (widths rows) (cells r))).head? = some (Decimal.digits r.seq) := by
  obtain ⟨rest, hrest, hspace⟩ := exists_line_eq rows r
  rw [hrest]
  refine Text.head?_words_append (Decimal.isWord_digits r.seq) ?_
  intro c hc
  rw [hspace c hc]
  decide

/-- The line of a row is not indented. -/
theorem exists_line_eq_cons (rows : List Row) (r : Row) :
    ∃ c rest, line (widths rows) (cells r) = c :: rest ∧ c ≠ ' ' := by
  obtain ⟨rest, hrest, -⟩ := exists_line_eq rows r
  obtain ⟨c, digits, hdigits⟩ := List.exists_cons_of_ne_nil (Decimal.digits_ne_nil r.seq)
  refine ⟨c, digits ++ rest, by rw [hrest, hdigits, List.cons_append], ?_⟩
  have hdigit : Decimal.isDigit c = true :=
    Decimal.isDigit_of_mem_digits (hdigits ▸ List.mem_cons_self)
  rintro rfl
  exact absurd hdigit (by decide)

/-- A line ends with its last cell, and the cells before it are filled up with spaces. -/
theorem line_concat {ws : List Nat} {before : List String} (hlength : ws.length = before.length)
    (w : Nat) {last : String} {init : List Char} {x : Char} (hlast : last.toList = init ++ [x])
    (hx : Text.isBlank x = false) :
    line (ws ++ [w]) (before ++ [last]) = Text.joinWith [' ', ' ']
      (List.zipWith padded ws before ++ [last.toList]) := by
  have hzip : List.zipWith padded (ws ++ [w]) (before ++ [last])
      = List.zipWith padded ws before
        ++ [last.toList ++ List.replicate (w - last.length) ' '] := by
    rw [List.zipWith_append hlength]
    rfl
  have hspaces : ∀ d ∈ List.replicate (w - last.length) ' ', Text.isBlank d = true := by
    intro d hd
    rw [List.eq_of_mem_replicate hd]
    decide
  unfold line
  rw [hzip, ← Text.joinWith_append, hlast, ← Text.joinWith_append]
  exact Text.trimEnd_concat_append _ hx hspaces

/-- There is a width for each cell before the last one, and one for the last. -/
theorem exists_widths_eq (rows : List Row) :
    ∃ ws w, widths rows = ws ++ [w] ∧ ws.length = header.dropLast.length := by
  have hlength := length_widths rows
  have hne : widths rows ≠ [] := by
    intro hnil
    rw [hnil] at hlength
    cases hlength
  refine ⟨_, _, (List.dropLast_concat_getLast hne).symm, ?_⟩
  rw [List.length_dropLast, hlength, List.length_dropLast]

/-- The line of a row ends with its time. -/
theorem line_eq (rows : List Row) {r : Row} {init : List Char} {x : Char}
    (hcreated : r.created.toList = init ++ [x]) (hx : Text.isBlank x = false) :
    line (widths rows) (cells r) = Text.joinWith [' ', ' ']
      (List.zipWith padded (widths rows).dropLast (cells r).dropLast ++ [r.created.toList]) := by
  obtain ⟨ws, w, hws, hlength⟩ := exists_widths_eq rows
  have hcells : ws.length = (cells r).dropLast.length := hlength
  rw [hws, List.dropLast_concat]
  exact line_concat hcells w hcreated hx

/-- A character of a line is one of a cell, or a space. -/
theorem mem_cell_of_mem_line {ws : List Nat} {line' : List String} {c : Char}
    (h : c ∈ line ws line') (hc : c ≠ ' ') : ∃ cell ∈ line', c ∈ cell.toList := by
  have hstart : line ws line' <+: Text.joinWith [' ', ' '] (List.zipWith padded ws line') :=
    Text.trimEnd_prefix _
  rcases Text.of_mem_joinWith (hstart.subset h) with hspace | ⟨part, hpart, hmem⟩
  · simp [hc] at hspace
  · obtain ⟨k, hk, rfl⟩ := List.mem_iff_getElem.mp hpart
    rw [List.getElem_zipWith] at hmem
    rcases List.mem_append.mp hmem with hmem | hmem
    · exact ⟨_, List.getElem_mem _, hmem⟩
    · exact absurd (List.eq_of_mem_replicate hmem) hc

/-- No character of a cell is lost. -/
theorem mem_line_of_mem_cell (rows : List Row) {r : Row} {init : List Char} {x : Char}
    (hcreated : r.created.toList = init ++ [x]) (hx : Text.isBlank x = false) {cell : String}
    (hcell : cell ∈ cells r) {c : Char} (hc : c ∈ cell.toList) :
    c ∈ line (widths rows) (cells r) := by
  rw [line_eq rows hcreated hx]
  have hcells : cells r = (cells r).dropLast ++ [r.created] := rfl
  rw [hcells] at hcell
  rcases List.mem_append.mp hcell with hcell | hcell
  · obtain ⟨k, hk, rfl⟩ := List.mem_iff_getElem.mp hcell
    have hwidths : k < (widths rows).dropLast.length := by
      rw [List.length_dropLast, length_widths]
      exact hk
    have hpart : padded (widths rows).dropLast[k] (cells r).dropLast[k]
        ∈ List.zipWith padded (widths rows).dropLast (cells r).dropLast := by
      have hboth : k < (List.zipWith padded (widths rows).dropLast (cells r).dropLast).length := by
        rw [List.length_zipWith]
        exact Nat.lt_min.mpr ⟨hwidths, hk⟩
      have hmem := List.getElem_mem hboth
      rwa [List.getElem_zipWith] at hmem
    exact Text.mem_joinWith (List.mem_append_left _ hpart) (List.mem_append_left _ hc)
  · rw [List.mem_singleton.mp hcell] at hc
    exact Text.mem_joinWith (List.mem_append_right _ List.mem_cons_self) hc

/-! ### Lines of a table -/

/-- A table is its lines, each with its line end. -/
theorem toList_text (rows : List Row) : (text rows).toList = Text.ended (lines rows) :=
  String.toList_ofList

/-- A line feed stands in the line of a row exactly if one of its texts has it. -/
theorem feed_mem_line (p : Projection) (names : Directory) (now : Time.Instant) (rows : List Row)
    (b : Buffered) :
    '\n' ∈ line (widths rows) (cells (p.renderRow names now b)) ↔
      '\n' ∈ b.event.id.shown.toList ∨ '\n' ∈ (names.displayName b.event.device).toList ∨
        '\n' ∈ b.event.code.toList ∨ '\n' ∈ b.event.action.toList := by
  obtain ⟨init, x, hcreated, hx⟩ := exists_relativeText b.event.createdAt now
  have hcells : ('\n' ∈ line (widths rows) (cells (p.renderRow names now b))) ↔
      ∃ cell ∈ cells (p.renderRow names now b), '\n' ∈ cell.toList := by
    constructor
    · intro h
      exact mem_cell_of_mem_line h (by decide)
    · rintro ⟨cell, hcell, hfeed⟩
      exact mem_line_of_mem_cell rows (r := p.renderRow names now b) hcreated hx hcell hfeed
  have hindex : '\n' ∉ (Decimal.signedText b.event.index).toList := by
    unfold Decimal.signedText Decimal.signedDigits
    split <;> simp [feed_notMem_digits]
  have htime := feed_notMem_relativeText b.event.createdAt now
  rw [hcells]
  simp [cells, Projection.renderRow, feed_notMem_digits, hindex, htime]

theorem feed_notMem_header (rows : List Row) : '\n' ∉ line (widths rows) header := by
  intro h
  obtain ⟨cell, hcell, hfeed⟩ := mem_cell_of_mem_line h (by decide)
  have hall : ∀ cell ∈ header, '\n' ∉ cell.toList := by decide
  exact hall cell hcell hfeed

end Table

/-- The text is on one line. -/
def OneLine (s : String) : Prop := '\n' ∉ s.toList

/-- The cells of the row of an event are on one line each. -/
structure Plain (names : Directory) (e : DeviceEvent) : Prop where
  id : OneLine e.id.shown
  device : OneLine (names.displayName e.device)
  code : OneLine e.code
  action : OneLine e.action

namespace LiveFeed

variable (f : LiveFeed) (names : Directory) (now : Time.Instant)

/-- The first line of the table of a feed. -/
def headerLine : List Char :=
  Table.line (Table.widths (f.rows names now)) Table.header

/-- The line of an event in the table of a feed. -/
def rowLine (b : Buffered) : List Char :=
  Table.line (Table.widths (f.rows names now)) (Table.cells (f.projection.renderRow names now b))

/-- The lines below it: those of the payload, indented, if it is shown. -/
def lowerLines (b : Buffered) : List (List Char) :=
  if (f.projection.isExpanded b.seq).getD f.projection.byDefault then
    (Text.lines b.event.data.prettyText.toList).map ("    ".toList ++ ·)
  else []

/-- The lines of some events. -/
def eventLines (events : List Buffered) : List (List Char) :=
  events.flatMap fun b => f.rowLine names now b :: f.lowerLines b

theorem payloadLines_renderRow (b : Buffered) :
    Table.payloadLines (f.projection.renderRow names now b).payload = f.lowerLines b := by
  rw [f.projection.payload_renderRow, lowerLines]
  by_cases hshown : (f.projection.isExpanded b.seq).getD f.projection.byDefault = true
  · simp only [hshown, if_true]
    rfl
  · simp only [hshown]
    rfl

/-- The payload lines of an event have no line feeds. -/
theorem feed_notMem_lowerLines (b : Buffered) : ∀ line ∈ f.lowerLines b, '\n' ∉ line := by
  intro line hline hfeed
  unfold lowerLines at hline
  split at hline
  · obtain ⟨payload, hpayload, rfl⟩ := List.mem_map.mp hline
    rcases List.mem_append.mp hfeed with hindent | hfeed
    · exact absurd hindent (by decide)
    · exact Text.feed_notMem_lines hpayload hfeed
  · cases hline

/-- A table has its first line and, event by event, those of the events. -/
theorem lines_rows :
    Table.lines (f.rows names now)
      = f.headerLine names now :: f.eventLines names now f.buffer.events := by
  have hrow : ∀ b, Table.rowLines (Table.widths (f.rows names now))
      (f.projection.renderRow names now b) = f.rowLine names now b :: f.lowerLines b := by
    intro b
    rw [← f.payloadLines_renderRow names now]
    rfl
  show f.headerLine names now
    :: (f.buffer.events.map (f.projection.renderRow names now)).flatMap _ = _
  simp only [eventLines, List.flatMap_map, hrow]

/-- The lines of a table can be read back from its text exactly if no line has a line feed in it. -/
theorem pieces_text_iff :
    Text.pieces (· == '\n') (Table.text (f.rows names now)).toList
        = f.headerLine names now :: f.eventLines names now f.buffer.events ++ [[]] ↔
      ∀ line ∈ Table.lines (f.rows names now), '\n' ∉ line := by
  rw [← f.lines_rows names now, Table.toList_text, Text.pieces_ended_iff]

/-- The lines of a table have line feeds only from the texts of its events. -/
theorem feed_notMem_lines_iff :
    (∀ line ∈ Table.lines (f.rows names now), '\n' ∉ line) ↔
      ∀ b ∈ f.buffer.events, Plain names b.event := by
  rw [f.lines_rows names now]
  constructor
  · intro h b hb
    have hrow : '\n' ∉ f.rowLine names now b := by
      refine h _ (List.mem_cons_of_mem _ (List.mem_flatMap.mpr ⟨b, hb, List.mem_cons_self⟩))
    unfold rowLine at hrow
    rw [Table.feed_mem_line, not_or, not_or, not_or] at hrow
    exact ⟨hrow.1, hrow.2.1, hrow.2.2.1, hrow.2.2.2⟩
  · intro h line hline
    rcases List.mem_cons.mp hline with rfl | hline
    · exact Table.feed_notMem_header _
    · obtain ⟨b, hb, hline⟩ := List.mem_flatMap.mp hline
      rcases List.mem_cons.mp hline with rfl | hline
      · unfold rowLine
        rw [Table.feed_mem_line, not_or, not_or, not_or]
        have hplain := h b hb
        exact ⟨hplain.id, hplain.device, hplain.code, hplain.action⟩
      · exact f.feed_notMem_lowerLines b line hline

end LiveFeed

/-- A table has its header, a line for each event in the order of the buffer with the payload below
it, and nothing else, exactly if no row has a line feed in one of its texts. -/
theorem lines_of_table (f : LiveFeed) (names : Directory) (now : Time.Instant) :
    Text.pieces (· == '\n') (Table.text (f.rows names now)).toList
        = f.headerLine names now :: f.eventLines names now f.buffer.events ++ [[]] ↔
      ∀ b ∈ f.buffer.events, Plain names b.event := by
  rw [f.pieces_text_iff, f.feed_notMem_lines_iff]

/-- The text of an event whose code has a line feed, and after it the cells of another row. -/
def forgingText : String :=
  "\x7b\"id\":1,\"device_uuid\":\"cam\",\"code\":\"a\\n7  9  gate  x\",\"action\":\"b\"," ++
    "\"index\":0,\"data\":null,\"created_at\":\"1970-01-01T00:00:00Z\"\x7d"

/-- The event as it is read. -/
def forgingEvent : DeviceEvent :=
  ⟨.number 1, "cam", "a\n7  9  gate  x", "b", 0, .null, ⟨0, 0⟩⟩

set_option maxRecDepth 1024 in
theorem event?_forgingText : (Push.Message.text forgingText).event? = some forgingEvent := by rfl

/-- A client that opens a connection on which the event arrives. -/
def forgingClient : Push.Client := .ofScript [.opened ⟨[.message (.text forgingText)], false⟩]

/-- A run after which the table of one event, whose number is one, has a line that reads as that of
a row seven. -/
theorem table_of_forgingText :
    ∃ given f, LiveFeed.Observed noteNumber [] (.new .empty keepOne) given f ∧
      f.buffer.events = [⟨1, forgingEvent⟩] ∧
      Text.pieces (· == '\n') (Table.text (f.rows .empty ⟨0, 0⟩)).toList
        ≠ f.headerLine .empty ⟨0, 0⟩ :: f.eventLines .empty ⟨0, 0⟩ f.buffer.events ++ [[]] ∧
      ∃ line ∈ Text.pieces (· == '\n') (Table.text (f.rows .empty ⟨0, 0⟩)).toList,
        Text.words line = ["7", "9", "gate", "x", "b", "0", "just", "now"].map String.toList := by
  have harrived : Task.arrived? ⟨[.message (.text forgingText)], false⟩
      = some (.passing forgingEvent ⟨[], false⟩) := by
    simp only [Task.arrived?, event?_forgingText]
  have hstart : LiveFeed.Observed noteNumber [] (.new .empty keepOne) []
      (.new .empty keepOne) := .start
  have hasked := (hstart.act (a := .subscribe) rfl).act (a := .work 0 forgingClient) rfl
  have hopened := (hasked.act (a := .work 0 forgingClient) rfl).act (a := .work 0 forgingClient) rfl
  have hread := hopened.read (k := 0) rfl rfl harrived forgingClient
  have hsent := hread.act (a := .work 0 forgingClient) rfl
  have htaken := ((hsent.act (a := .take ⟨0, 0⟩) rfl).act (a := .take ⟨0, 0⟩) rfl).act
    (a := .take ⟨0, 0⟩) rfl
  refine ⟨_, _, htaken, rfl, ?_, ?_⟩
  · rw [Ne, LiveFeed.pieces_text_iff, LiveFeed.feed_notMem_lines_iff]
    intro hplain
    exact (hplain _ List.mem_cons_self).code (by decide)
  · decide +kernel

end CameraFeed.Feed
