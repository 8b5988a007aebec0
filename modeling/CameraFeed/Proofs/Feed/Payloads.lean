import CameraFeed.Proofs.Feed.Tables
import CameraFeed.Proofs.Json.Printing

/-! # Payloads — reading a payload back from the table

  The payload of an event is printed over several lines, which are indented below the row. Only the
  line ends between these lines are line feeds, since the printer escapes those in texts and names,
  and the row after them begins with its number. So the lines of the payload can be found in the
  table, and read back. -/

namespace CameraFeed.Feed

/-- The characters before each line of a payload. -/
def indent : List Char := "    ".toList

/-- The indented lines at the start of a text, without their indentation. -/
def indentedLines (cs : List Char) : List (List Char) :=
  ((Text.pieces (· == '\n') cs).takeWhile (indent.isPrefixOf ·)).map (·.drop indent.length)

/-- A text that does not start with a space has no indented lines at its start. -/
theorem indentedLines_eq_nil {cs : List Char} (h : ∀ c ∈ cs.head?, c ≠ ' ') :
    indentedLines cs = [] := by
  obtain ⟨first, rest, hpieces, hfirst⟩ := Text.exists_pieces_eq_cons (· == '\n') cs
  have hnot : ¬ indent.isPrefixOf first = true := by
    intro hstart
    obtain ⟨more, rfl⟩ := (List.isPrefixOf_iff_prefix.mp hstart).trans hfirst
    exact h ' ' rfl rfl
  rw [indentedLines, hpieces, List.takeWhile_cons_of_neg hnot, List.map_nil]

/-- Indented lines are found again in front of a text that starts otherwise. -/
theorem indentedLines_ended_append {lines : List (List Char)} (hlines : ∀ line ∈ lines, '\n' ∉ line)
    {rest : List Char} (hrest : ∀ c ∈ rest.head?, c ≠ ' ') :
    indentedLines (Text.ended (lines.map (indent ++ ·)) ++ rest) = lines := by
  have hfeed : ∀ line ∈ lines.map (indent ++ ·), '\n' ∉ line := by
    intro line hline
    obtain ⟨line, hmem, rfl⟩ := List.mem_map.mp hline
    rw [List.mem_append, not_or]
    exact ⟨by decide, hlines line hmem⟩
  have hindented : ∀ line ∈ lines.map (indent ++ ·), indent.isPrefixOf line = true := by
    intro line hline
    obtain ⟨line, -, rfl⟩ := List.mem_map.mp hline
    exact List.isPrefixOf_iff_prefix.mpr (List.prefix_append _ _)
  have hnone := indentedLines_eq_nil hrest
  rw [indentedLines, List.map_eq_nil_iff] at hnone
  rw [indentedLines, Text.pieces_ended_append hfeed, List.takeWhile_append_of_pos hindented, hnone,
    List.append_nil, List.map_map]
  refine List.map_id'' ?_ lines
  intro line
  exact List.drop_left

/-! ### In a table -/

namespace LiveFeed

variable (f : LiveFeed) (names : Directory) (now : Time.Instant)

/-- The lines of an event are followed by the line of another event, or by nothing. -/
theorem head?_ended_eventLines (events : List Buffered) :
    ∀ c ∈ (Text.ended (f.eventLines names now events)).head?, c ≠ ' ' := by
  cases events with
  | nil => exact nofun
  | cons b events =>
    obtain ⟨d, rest, hline, hd⟩ := Table.exists_line_eq_cons (f.rows names now)
      (f.projection.renderRow names now b)
    intro c hc
    have hrow : f.rowLine names now b = d :: rest := hline
    simp only [eventLines, List.flatMap_cons, hrow, Text.ended, List.cons_append,
      List.head?_cons, Option.mem_some_iff] at hc
    exact hc ▸ hd

/-- A table around the line of an event. -/
theorem toList_text_rows {above below : List Buffered} {b : Buffered}
    (hevents : f.buffer.events = above ++ b :: below) :
    (Table.text (f.rows names now)).toList
      = Text.ended (f.headerLine names now :: f.eventLines names now above
          ++ [f.rowLine names now b])
        ++ (Text.ended (f.lowerLines b) ++ Text.ended (f.eventLines names now below)) := by
  rw [Table.toList_text, f.lines_rows, hevents]
  simp [Text.ended, eventLines]

end LiveFeed

/-- The payload shown by the row of an event is a text, from which the data of the event are read.
The lines that stand indented below the row in the table give this text again. -/
theorem payload_of_table (f : LiveFeed) (names : Directory) (now : Time.Instant)
    {above below : List Buffered} {b : Buffered} (hevents : f.buffer.events = above ++ b :: below)
    (hshown : (f.projection.isExpanded b.seq).getD f.projection.byDefault = true)
    (hdata : Json.Exact Json.depthLimit b.event.data) :
    ∃ text rest, (f.projection.renderRow names now b).payload = .expanded text ∧
      (Table.text (f.rows names now)).toList
        = Text.ended (f.headerLine names now :: f.eventLines names now above
            ++ [f.rowLine names now b]) ++ rest ∧
      String.ofList (Text.joinWith ['\n'] (indentedLines rest)) = text ∧
      Json.read text = .ok b.event.data := by
  refine ⟨b.event.data.prettyText, _, ?_, f.toList_text_rows names now hevents, ?_,
    hdata.read_prettyText⟩
  · rw [f.projection.payload_renderRow, if_pos hshown]
  · have hlower : f.lowerLines b
        = (Text.lines b.event.data.prettyText.toList).map (indent ++ ·) := if_pos hshown
    have hfeed : ∀ line ∈ Text.lines b.event.data.prettyText.toList, '\n' ∉ line :=
      fun line hline => Text.feed_notMem_lines hline
    have hpretty : b.event.data.prettyText.toList = Json.pretty 0 b.event.data :=
      String.toList_ofList
    rw [hlower, indentedLines_ended_append hfeed (f.head?_ended_eventLines names now below),
      hpretty, hdata.joinWith_lines]
    rfl

/-- Data with line ends and control characters in a name and in texts, some of them nested. -/
def brokenData : Json :=
  .object [("\x01\n    ", .array [.text "a\r\nb", .array [], .null]),
    ("b", .number (.integer (-1)))]

theorem brokenData_exact : Json.Exact Json.depthLimit brokenData := by
  refine .object ?_ (by decide)
  intro m hm
  simp only [List.mem_cons, List.not_mem_nil, or_false] at hm
  rcases hm with rfl | rfl
  · refine .array ?_
    intro v hv
    simp only [List.mem_cons, List.not_mem_nil, or_false] at hv
    rcases hv with rfl | rfl | rfl
    · exact .text _
    · exact .array nofun
    · exact .null
  · exact .integer (by decide) (by decide)

/-- An event with these data and with a line feed in its code. -/
def brokenEvent : DeviceEvent := ⟨.text "1", "cam", "a\n    b", "c", 0, brokenData, ⟨0, 0⟩⟩

/-- A feed that got the event twice and shows all payloads. -/
def brokenFeed : LiveFeed :=
  let showing := LiveFeed.new .empty ⟨⟨500, .ofMillis 30000⟩, 8, none, true⟩
  ((showing.accept ⟨0, 0⟩ (.event brokenEvent)).2.accept ⟨0, 0⟩ (.event brokenEvent)).2

/-- The data are read from the lines below the upper one of two rows, each with a line feed. -/
theorem payload_of_brokenFeed :
    brokenFeed.buffer.events = [] ++ ⟨2, brokenEvent⟩ :: [⟨1, brokenEvent⟩] ∧
      brokenFeed.projection.isExpanded 2 = some true ∧
      Json.Exact Json.depthLimit brokenEvent.data ∧
      ∃ text rest, (brokenFeed.projection.renderRow .empty ⟨0, 0⟩ ⟨2, brokenEvent⟩).payload
          = .expanded text ∧
        (Table.text (brokenFeed.rows .empty ⟨0, 0⟩)).toList
          = Text.ended (brokenFeed.headerLine .empty ⟨0, 0⟩
              :: brokenFeed.eventLines .empty ⟨0, 0⟩ []
              ++ [brokenFeed.rowLine .empty ⟨0, 0⟩ ⟨2, brokenEvent⟩]) ++ rest ∧
        String.ofList (Text.joinWith ['\n'] (indentedLines rest)) = text ∧
        Json.read text = .ok brokenData :=
  ⟨rfl, rfl, brokenData_exact, payload_of_table brokenFeed .empty ⟨0, 0⟩ rfl rfl brokenData_exact⟩

end CameraFeed.Feed
