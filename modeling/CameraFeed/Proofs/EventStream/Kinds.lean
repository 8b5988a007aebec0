import CameraFeed.Json.Reader
import CameraFeed.Proofs.EventStream.Fields
import Mathlib.Data.List.Induction

/-! # Kinds — the lines that each field of a frame depends on

  A line has one of five kinds by its name, or none. `message_of_lines` says that the data of a
  frame depend on its lines of data alone, each other field on the last line of its own kind alone,
  and that only the data can fail. So lines of different kinds can change places, and lines of no
  kind can be added and removed. -/

namespace CameraFeed.EventStream

open Text (pieces joinWith)

/-! ### Kinds of lines -/

/-- The kinds of lines that have a meaning. -/
inductive Kind where
  | data
  | field (label : Label)
  deriving DecidableEq, Repr

namespace Kind

/-- The name with which a line of the kind starts. -/
def name : Kind → List Char
  | data => "data:".toList
  | field label => label.name

/-- The line is of the kind. -/
def starts (k : Kind) (line : List Char) : Bool := k.name.isPrefixOf line

/-- The value of a line of the kind, which is the text after its name. -/
def value (k : Kind) (line : List Char) : List Char := line.drop k.name.length

/-- The lines of the kind in a frame, in their order. -/
def lines (k : Kind) (frame : String) : List (List Char) :=
  (pieces (· == '\n') frame.toList).filter k.starts

theorem exists_of_starts {k : Kind} {line : List Char} (h : k.starts line = true) :
    ∃ v, line = k.name ++ v ∧ k.value line = v := by
  obtain ⟨v, rfl⟩ := List.isPrefixOf_iff_prefix.mp h
  exact ⟨v, rfl, List.drop_left⟩

/-- No line has two kinds. -/
theorem eq_of_starts {k k' : Kind} {line : List Char} (h : k.starts line = true)
    (h' : k'.starts line = true) : k = k' := by
  have hprefix : k.name <+: k'.name ∨ k'.name <+: k.name :=
    List.prefix_or_prefix_of_prefix (List.isPrefixOf_iff_prefix.mp h)
      (List.isPrefixOf_iff_prefix.mp h')
  -- None of the five names begins with another.
  revert hprefix
  rcases k with _ | (_ | _ | _ | _) <;> rcases k' with _ | (_ | _ | _ | _) <;> decide

/-- An empty line has no kind. -/
theorem starts_nil (k : Kind) : k.starts [] = false := by
  rcases k with _ | (_ | _ | _ | _) <;> rfl

end Kind

/-- The value of the last line of a field in a frame. -/
def Label.last? (label : Label) (frame : String) : Option (List Char) :=
  ((Kind.field label).lines frame).getLast?.map (Kind.field label).value

/-- A text without its first character, if that is a space. -/
def withoutSpace (cs : List Char) : List Char := if cs.head? = some ' ' then cs.tail else cs

theorem dataLine_eq_withoutSpace (cs : List Char) : Fields.dataLine cs = withoutSpace cs := by
  cases cs with
  | nil => rfl
  | cons c rest =>
    by_cases hc : c = ' '
    · subst hc
      rfl
    · have hother : Fields.dataLine (c :: rest) = c :: rest := by
        rw [Fields.dataLine.eq_2]
        rintro rest' ⟨⟩
        exact hc rfl
      rw [hother, withoutSpace, List.head?_cons, if_neg fun heq => hc (Option.some.inj heq)]

/-- The text of the data of a frame: the values of its lines of data, each without one space at its
start, joined by line feeds. -/
def joinedData (frame : String) : String :=
  String.ofList (joinWith ['\n'] ((Kind.data.lines frame).map fun line =>
    withoutSpace (Kind.data.value line)))

/-- `Regrouped frame frame'`: of each kind, both frames have the same lines in the same order. Lines
of one kind were moved past lines of another, or lines without a kind came or went. -/
def Regrouped (frame frame' : String) : Prop := ∀ k : Kind, k.lines frame = k.lines frame'

/-! ### Taking lines by their kinds -/

namespace Fields

/-- The fields after a line of a kind with a value. -/
def put (f : Fields) : Kind → List Char → Fields
  | .data, v => { f with data := dataLine v :: f.data }
  | .field .id, v => { f with id := some (valueOf v) }
  | .field .event, v => { f with event := some (valueOf v) }
  | .field .retry, v => { f with retry := Decimal.readPlus? Decimal.wordLimit (Text.trim v) }
  | .field .comment, v => { f with comment := some (valueOf v) }

theorem addLine_of_starts (f : Fields) {k : Kind} {line : List Char} (h : k.starts line = true) :
    f.addLine line = f.put k (k.value line) := by
  obtain ⟨v, rfl, hvalue⟩ := Kind.exists_of_starts h
  rw [hvalue]
  rcases k with _ | (_ | _ | _ | _) <;> rfl

/-- A line without a kind changes nothing. -/
theorem addLine_of_none (f : Fields) {line : List Char} (h : ∀ k : Kind, k.starts line = false) :
    f.addLine line = f := by
  have hafter : ∀ k : Kind, after? k.name line = none := by
    intro k
    unfold after?
    rw [if_neg]
    exact Bool.eq_false_iff.mp (h k)
  have hid : after? "id:".toList line = none := hafter (.field .id)
  have hevent : after? "event:".toList line = none := hafter (.field .event)
  have hretry : after? "retry:".toList line = none := hafter (.field .retry)
  have hcomment : after? ":".toList line = none := hafter (.field .comment)
  have hdata : after? "data:".toList line = none := hafter .data
  simp only [addLine, hid, hevent, hretry, hcomment, hdata]

/-- The fields of some lines: the last line of each field, and all lines of data. -/
def told (lines : List (List Char)) : Fields :=
  let last? (label : Label) : Option (List Char) :=
    (lines.filter (Kind.field label).starts).getLast?.map (Kind.field label).value
  { id := (last? .id).map valueOf
    event := (last? .event).map valueOf
    retry := (last? .retry).bind fun v => Decimal.readPlus? Decimal.wordLimit (Text.trim v)
    comment := (last? .comment).map valueOf
    data := ((lines.filter Kind.data.starts).map fun l => dataLine (Kind.data.value l)).reverse }

/-- One line more is taken for its own kind. -/
theorem told_concat (lines : List (List Char)) (line : List Char) :
    told (lines ++ [line]) = (told lines).addLine line := by
  by_cases hkind : ∃ k : Kind, k.starts line = true
  · obtain ⟨k, hk⟩ := hkind
    have hother : ∀ k' : Kind, k'.starts line = decide (k = k') := by
      intro k'
      by_cases heq : k = k'
      · subst heq
        simp [hk]
      · cases hk' : k'.starts line with
        | false => simp [heq]
        | true => exact absurd (Kind.eq_of_starts hk hk') heq
    rw [addLine_of_starts _ hk]
    rcases k with _ | (_ | _ | _ | _) <;> simp [told, put, hother]
  · have hnone : ∀ k : Kind, k.starts line = false := by
      intro k
      exact Bool.eq_false_iff.mpr fun hk => hkind ⟨k, hk⟩
    rw [addLine_of_none _ hnone]
    simp [told, hnone]

/-- Adding lines one by one gives the fields of all of them. -/
theorem foldl_addLine_eq (lines : List (List Char)) : lines.foldl addLine .empty = told lines := by
  -- From the end, as the last line of a field is the one that counts.
  induction lines using List.reverseRecOn with
  | nil => rfl
  | append_singleton lines line ih =>
    rw [List.foldl_append, ih, List.foldl_cons, List.foldl_nil, told_concat]

end Fields

/-! ### Frames -/

/-- Without carriage returns, the lines of a kind are those between line feeds. -/
theorem filter_linesOf {parts : List (List Char)} (hreturn : ∀ part ∈ parts, '\r' ∉ part)
    (k : Kind) : (Text.linesOf parts).filter k.starts = parts.filter k.starts := by
  induction parts with
  | nil => rfl
  | cons part parts ih =>
    cases parts with
    | nil =>
      -- Only an empty line can be missing.
      cases part with
      | nil => simp [Text.linesOf, k.starts_nil]
      | cons c cs => simp [Text.linesOf]
    | cons next rest =>
      have hlast : part.getLast? ≠ some '\r' := by
        intro hlast
        exact hreturn part List.mem_cons_self (List.mem_of_getLast? hlast)
      have hrest := ih fun q hq => hreturn q (List.mem_cons_of_mem _ hq)
      rw [Text.linesOf, Text.dropReturn, if_neg hlast, List.filter_cons, List.filter_cons, hrest]
      exact List.cons_ne_nil _ _

/-- The fields of a frame are what its lines say. -/
theorem Fields.ofFrame_eq {frame : String} (h : '\r' ∉ frame.toList) :
    Fields.ofFrame frame = told (pieces (· == '\n') frame.toList) := by
  have hlines : ∀ k : Kind, (Text.lines frame.toList).filter k.starts
      = (pieces (· == '\n') frame.toList).filter k.starts := by
    refine filter_linesOf ?_
    intro part hpart hreturn
    exact h (Text.mem_of_mem_pieces hpart '\r' hreturn).1
  unfold Fields.ofFrame
  rw [foldl_addLine_eq]
  simp only [told, hlines]

/-- A message with the fields of a frame. -/
def Fields.toMessage {α : Type} (f : Fields) (data : Option α) : Message α :=
  ⟨f.id, f.event, f.retry, f.comment, data⟩

/-- The message of a frame: without lines of data there is nothing to read, and otherwise reading
them is all that can fail. -/
theorem Message.ofFrame_eq {α : Type} (readData : String → Except Json.Fault α) {frame : String}
    (h : '\r' ∉ frame.toList) :
    Message.ofFrame readData frame
      = if Kind.data.lines frame = [] then .ok ((Fields.ofFrame frame).toMessage none)
        else (readData (joinedData frame)).map fun a =>
          (Fields.ofFrame frame).toMessage (some a) := by
  have hfields : (Fields.ofFrame frame).data = ((Kind.data.lines frame).map fun line =>
      Fields.dataLine (Kind.data.value line)).reverse := by
    rw [Fields.ofFrame_eq h]
    rfl
  have htext : (Fields.ofFrame frame).dataText
      = if Kind.data.lines frame = [] then none else some (joinedData frame) := by
    rw [Fields.dataText, hfields]
    by_cases hdata : Kind.data.lines frame = []
    · simp [hdata]
    · simp [hdata, joinedData, dataLine_eq_withoutSpace]
  by_cases hdata : Kind.data.lines frame = []
  · rw [if_pos hdata] at htext ⊢
    simp only [Message.ofFrame, htext]
    rfl
  · rw [if_neg hdata] at htext ⊢
    simp only [Message.ofFrame, htext]
    cases readData (joinedData frame) <;> rfl

/-- Frames with the same lines of each kind have the same fields. -/
theorem Regrouped.ofFrame_eq {frame frame' : String} (hsame : Regrouped frame frame')
    (h : '\r' ∉ frame.toList) (h' : '\r' ∉ frame'.toList) :
    Fields.ofFrame frame = Fields.ofFrame frame' := by
  have hfilter : ∀ k : Kind, (pieces (· == '\n') frame.toList).filter k.starts
      = (pieces (· == '\n') frame'.toList).filter k.starts := hsame
  rw [Fields.ofFrame_eq h, Fields.ofFrame_eq h']
  simp only [Fields.told, hfilter]

/-- The data of a frame are read from its lines of data, or there are none. -/
theorem Message.map_data_ofFrame {α : Type} (readData : String → Except Json.Fault α)
    {frame : String} (h : '\r' ∉ frame.toList) :
    (Message.ofFrame readData frame).map Message.data
      = if Kind.data.lines frame = [] then .ok none
        else (readData (joinedData frame)).map some := by
  rw [Message.ofFrame_eq readData h]
  by_cases hlines : Kind.data.lines frame = []
  · rw [if_pos hlines, if_pos hlines]
    rfl
  · rw [if_neg hlines, if_neg hlines]
    cases readData (joinedData frame) <;> rfl

/-- Reading the data is all that can fail. -/
theorem Message.ofFrame_eq_error_iff {α : Type} (readData : String → Except Json.Fault α)
    {frame : String} (h : '\r' ∉ frame.toList) (fault : Json.Fault) :
    Message.ofFrame readData frame = .error fault ↔
      Kind.data.lines frame ≠ [] ∧ readData (joinedData frame) = .error fault := by
  rw [Message.ofFrame_eq readData h]
  by_cases hlines : Kind.data.lines frame = []
  · simp [hlines]
  · cases hread : readData (joinedData frame) <;> simp [hlines, Except.map]

/-- The fields of a message, apart from its data, are those of the last line of each kind. -/
theorem Message.eq_of_ofFrame {α : Type} {readData : String → Except Json.Fault α} {frame : String}
    (h : '\r' ∉ frame.toList) {m : Message α} (hm : Message.ofFrame readData frame = .ok m) :
    m = (Fields.told (pieces (· == '\n') frame.toList)).toMessage m.data ∧
      (m.data = none ↔ Kind.data.lines frame = []) := by
  rw [Message.ofFrame_eq readData h, Fields.ofFrame_eq h] at hm
  by_cases hlines : Kind.data.lines frame = []
  · rw [if_pos hlines] at hm
    cases hm
    exact ⟨rfl, by simp [hlines, Fields.toMessage]⟩
  · rw [if_neg hlines] at hm
    cases hread : readData (joinedData frame) with
    | error fault =>
      rw [hread] at hm
      cases hm
    | ok a =>
      rw [hread] at hm
      cases hm
      exact ⟨rfl, by simp [hlines, Fields.toMessage]⟩

/-- Frames without carriage returns that have the same lines of each kind are decoded to the same
message, or fail with the same fault. The data are those of the lines of data, and only reading them
can fail. Each other field is that of the last line of its kind. -/
theorem message_of_lines {α : Type} (readData : String → Except Json.Fault α) :
    (∀ frame frame' : String, '\r' ∉ frame.toList → '\r' ∉ frame'.toList →
      Regrouped frame frame' →
        Message.ofFrame readData frame = Message.ofFrame readData frame') ∧
    (∀ frame frame' : String, '\r' ∉ frame.toList → '\r' ∉ frame'.toList →
      Kind.data.lines frame = Kind.data.lines frame' →
        (Message.ofFrame readData frame).map Message.data
          = (Message.ofFrame readData frame').map Message.data) ∧
    ∀ frame : String, '\r' ∉ frame.toList →
      (∀ m, Message.ofFrame readData frame = .ok m →
        m.id = (Label.last? .id frame).map (fun v => String.ofList (Text.trim v)) ∧
        m.event = (Label.last? .event frame).map (fun v => String.ofList (Text.trim v)) ∧
        m.retry = (Label.last? .retry frame).bind (fun v =>
          Decimal.readPlus? Decimal.wordLimit (Text.trim v)) ∧
        m.comment = (Label.last? .comment frame).map (fun v => String.ofList (Text.trim v)) ∧
        (m.data = none ↔ Kind.data.lines frame = [])) ∧
      ∀ fault, Message.ofFrame readData frame = .error fault ↔
        Kind.data.lines frame ≠ [] ∧ readData (joinedData frame) = .error fault := by
  refine ⟨?_, ?_, ?_⟩
  · intro frame frame' h h' hsame
    unfold Message.ofFrame
    rw [hsame.ofFrame_eq h h']
  · intro frame frame' h h' hsame
    have hjoined : joinedData frame = joinedData frame' := by
      unfold joinedData
      rw [hsame]
    rw [Message.map_data_ofFrame readData h, Message.map_data_ofFrame readData h', hsame, hjoined]
  · intro frame h
    refine ⟨?_, Message.ofFrame_eq_error_iff readData h⟩
    intro m hm
    obtain ⟨heq, hdata⟩ := Message.eq_of_ofFrame h hm
    rw [heq]
    exact ⟨rfl, rfl, rfl, rfl, hdata⟩

/-- The lines of a frame were moved around, and two without a kind came in. Both identifiers stayed
in their order, and so did the two waiting times, the last of which is no number. -/
theorem message_of_movedLines :
    let frame := "id: 1\nretry: 5\n: on\ndata: [1,\nid: 2\nretry: x\ndata:2]"
    let moved := "dat: 0\nretry: 5\ndata: [1,\nid: 1\n\nretry: x\nid: 2\ndata:2]\n: on"
    '\r' ∉ frame.toList ∧ '\r' ∉ moved.toList ∧ Regrouped frame moved ∧
      Message.ofFrame Json.read frame = Message.ofFrame Json.read moved ∧
      ∀ m, Message.ofFrame Json.read frame = .ok m → m.id = some "2" ∧ m.retry = none := by
  intro frame moved
  have hreturn : '\r' ∉ frame.toList := by decide
  have hreturn' : '\r' ∉ moved.toList := by decide
  have hsame : Regrouped frame moved := by
    intro k
    rcases k with _ | (_ | _ | _ | _) <;> decide
  obtain ⟨hregrouped, -, hfields⟩ := message_of_lines Json.read
  refine ⟨hreturn, hreturn', hsame, hregrouped _ _ hreturn hreturn' hsame, ?_⟩
  intro m hm
  obtain ⟨hid, -, hretry, -⟩ := (hfields frame hreturn).1 m hm
  exact ⟨hid.trans (by decide), hretry.trans (by decide)⟩

end CameraFeed.EventStream
