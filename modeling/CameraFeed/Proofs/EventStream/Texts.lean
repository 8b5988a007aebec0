import CameraFeed.Proofs.EventStream.Chunks
import CameraFeed.Proofs.EventStream.Fields
import CameraFeed.Proofs.Text.Utf8
import CameraFeed.Push.Message

/-! # Texts — an event stream carries the messages of a web socket

  A text that is one message of a web socket can be written as the data of a frame instead, line
  by line. `Carries` describes the event streams that carry some texts in this way, with other
  fields, other frames, blank lines and both kinds of line ends wherever they may stand. The main
  statement says that decoding such a stream, in whatever chunks it comes, gives what decoding
  the texts gives. -/

namespace CameraFeed.EventStream

open Text (pieces joinWith)

/-! ### Written streams -/

/-- How a line ends. -/
inductive LineEnd where
  | feed
  /-- A carriage return stands before the line feed. -/
  | returnFeed
  deriving DecidableEq, Repr

/-- A line end as it is written. -/
def LineEnd.chars : LineEnd → List Char
  | feed => ['\n']
  | returnFeed => ['\r', '\n']

/-- A frame as it is written, with the blank line that ends it. Without lines of its own it is
only one more blank line. -/
structure Block where
  lines : List (FieldLine × LineEnd)
  blank : LineEnd

namespace Block

/-- The lines of a frame and their line ends. -/
def linesChars (lines : List (FieldLine × LineEnd)) : List Char :=
  lines.flatMap fun (line, lineEnd) => line.chars ++ lineEnd.chars

/-- A frame as it is written. -/
def chars (b : Block) : List Char := linesChars b.lines ++ b.blank.chars

/-- The lines of the data of a frame. -/
def data (b : Block) : List (List Char) := b.lines.filterMap fun (line, _) => line.data?

end Block

/-- A stream as it is written. -/
def written (blocks : List Block) : List Char := blocks.flatMap Block.chars

/-- The stream carries the texts, each one in the data of a frame. Frames between them have no
data. -/
inductive Carries : List Block → List String → Prop where
  | nil : Carries [] []
  | skip {b : Block} {blocks : List Block} {texts : List String} (hdata : b.data = [])
      (hmore : Carries blocks texts) : Carries (b :: blocks) texts
  | text {b : Block} {blocks : List Block} {text : String} {texts : List String}
      (hdata : b.data = pieces (· == '\n') text.toList) (hmore : Carries blocks texts) :
      Carries (b :: blocks) (text :: texts)

/-! ### Octets of lines -/

open Text.Utf8 (encode)

/-- Octets of a text without carriage returns stay as they are. -/
theorem withoutReturns_encode {cs : List Char} (h : '\r' ∉ cs) :
    withoutReturns (encode cs) = encode cs := by
  refine List.filter_eq_self.mpr fun b hb => decide_eq_true fun heq => h ?_
  rw [heq] at hb
  exact Text.Utf8.mem_of_mem_encode (by decide) hb

theorem lineFeed_not_mem_encode {cs : List Char} (h : '\n' ∉ cs) : lineFeed ∉ encode cs :=
  fun hmem => h (Text.Utf8.mem_of_mem_encode (by decide) hmem)

/-- The octets before the line feed of a line end. -/
def LineEnd.before : LineEnd → List UInt8
  | feed => []
  | returnFeed => [carriageReturn]

theorem LineEnd.encode_chars (e : LineEnd) : encode e.chars = e.before ++ [lineFeed] := by
  cases e <;> rfl

@[simp] theorem LineEnd.withoutReturns_before (e : LineEnd) : withoutReturns e.before = [] := by
  cases e <;> rfl

/-- Line ends of both kinds are line feeds without their carriage returns. -/
theorem withoutReturns_linesChars {lines : List (FieldLine × LineEnd)} (hne : lines ≠ []) :
    withoutReturns (encode (Block.linesChars lines))
      = encode (joinWith ['\n'] (lines.map fun l => l.1.chars)) ++ [lineFeed] := by
  induction lines with
  | nil => exact absurd rfl hne
  | cons l ls ih =>
    -- A line and its line end, of either kind.
    have hl : withoutReturns (encode (l.1.chars ++ l.2.chars))
        = encode l.1.chars ++ [lineFeed] := by
      rw [Text.Utf8.encode_append, withoutReturns_append, withoutReturns_encode l.1.noReturn,
        LineEnd.encode_chars, withoutReturns_append, LineEnd.withoutReturns_before]
      rfl
    cases ls with
    | nil => simpa [Block.linesChars, joinWith] using hl
    | cons l' ls =>
      have hrest := ih (List.cons_ne_nil _ _)
      rw [Block.linesChars, List.flatMap_cons, Text.Utf8.encode_append, withoutReturns_append, hl,
        ← Block.linesChars, hrest]
      simp [Text.joinWith_cons_cons]
      rfl

/-- A separator is not in a line, nor does it start there. -/
theorem separator_infix_append {line octets : List UInt8} (h : lineFeed ∉ line) :
    separator <:+: line ++ octets ↔ separator <:+: octets := by
  induction line with
  | nil => rfl
  | cons a line ih =>
    have ha : ¬ separator <+: a :: (line ++ octets) := fun hpre =>
      h (List.mem_cons.mpr (.inl (List.cons_prefix_cons.mp hpre).1))
    rw [List.cons_append, List.infix_cons_iff, ih fun hmem => h (List.mem_cons_of_mem _ hmem)]
    simp [ha]

/-- Lines that are not empty have no separator between them. -/
theorem separator_not_infix_joinWith {parts : List (List Char)}
    (hfeed : ∀ part ∈ parts, '\n' ∉ part) (hne : ∀ part ∈ parts, part ≠ []) (hparts : parts ≠ []) :
    ¬ separator <:+: lineFeed :: (encode (joinWith ['\n'] parts) ++ [lineFeed]) := by
  induction parts with
  | nil => exact absurd rfl hparts
  | cons part parts ih =>
    -- A part has no line feed and is not empty, so no separator begins before its end.
    have hpart : ∀ octets, separator <:+: lineFeed :: (encode part ++ octets) ↔
        separator <:+: octets := by
      intro octets
      have hfeed' := lineFeed_not_mem_encode (hfeed part List.mem_cons_self)
      obtain ⟨b, bs, hbs⟩ := List.exists_cons_of_ne_nil
        (mt Text.Utf8.encode_eq_nil_iff.mp (hne part List.mem_cons_self))
      have hb : b ≠ lineFeed := fun h => hfeed' (hbs ▸ h ▸ List.mem_cons_self)
      rw [hbs, List.cons_append, separator_infix_cons_cons, ← List.cons_append, ← hbs,
        separator_infix_append hfeed']
      simp [hb]
    cases parts with
    | nil =>
      rw [joinWith, hpart]
      decide
    | cons next rest =>
      have hrest := ih (fun q hq => hfeed q (List.mem_cons_of_mem _ hq))
        (fun q hq => hne q (List.mem_cons_of_mem _ hq)) (List.cons_ne_nil _ _)
      rw [Text.joinWith_cons_cons, Text.Utf8.encode_append, Text.Utf8.encode_append,
        List.append_assoc, List.append_assoc, hpart]
      exact hrest

/-! ### Cuts of a written stream -/

namespace Block

/-- The text of a frame, after what was left over before it. -/
def text (gap : List Char) (b : Block) : List Char :=
  gap ++ joinWith ['\n'] (b.lines.map fun l => l.1.chars)

variable (b : Block)

theorem noFeed_of_mem {part : List Char} (h : part ∈ b.lines.map fun l => l.1.chars) :
    '\n' ∉ part := by
  obtain ⟨l, -, rfl⟩ := List.mem_map.mp h
  exact l.1.noFeed

theorem noReturn_of_mem {part : List Char} (h : part ∈ b.lines.map fun l => l.1.chars) :
    '\r' ∉ part := by
  obtain ⟨l, -, rfl⟩ := List.mem_map.mp h
  exact l.1.noReturn

theorem ne_nil_of_mem {part : List Char} (h : part ∈ b.lines.map fun l => l.1.chars) :
    part ≠ [] := by
  obtain ⟨l, -, rfl⟩ := List.mem_map.mp h
  exact l.1.chars_ne_nil

/-- A frame with lines is one cut, which ends with its blank line. -/
theorem cutting_of_lines (hlines : b.lines ≠ []) {gap : List Char} (hgap : gap = [] ∨ gap = ['\n'])
    (place : Nat) : ∃ last, Cutting (encode gap) place (encode b.chars)
      [⟨encode (b.text gap), last⟩] [] := by
  have hparts : (b.lines.map fun l => l.1.chars) ≠ [] := by simpa using hlines
  have hwhole := separator_not_infix_joinWith (fun _ => b.noFeed_of_mem) (fun _ => b.ne_nil_of_mem)
    hparts
  have hframe : encode gap ++ withoutReturns (encode (linesChars b.lines) ++ b.blank.before)
      = encode (b.text gap) ++ [lineFeed] := by
    rw [withoutReturns_append, withoutReturns_linesChars hlines, LineEnd.withoutReturns_before,
      List.append_nil, text, Text.Utf8.encode_append, List.append_assoc]
  have hfirst : ¬ separator <:+: encode (b.text gap) ++ [lineFeed] := by
    rw [text, Text.Utf8.encode_append, List.append_assoc]
    rcases hgap with rfl | rfl
    · exact fun h => hwhole (h.trans (List.suffix_cons _ _).isInfix)
    · exact hwhole
  refine ⟨place + (encode (linesChars b.lines) ++ b.blank.before).length, ?_⟩
  rw [chars, Text.Utf8.encode_append, LineEnd.encode_chars, ← List.append_assoc]
  exact .first hframe hfirst (Cutting.nil separator_not_infix_nil _)

/-- A blank line more is nothing, or an empty frame. -/
theorem cutting_of_blank (hlines : b.lines = []) {gap : List Char}
    (hgap : gap = [] ∨ gap = ['\n']) (place : Nat) :
    ∃ cuts gap', Cutting (encode gap) place (encode b.chars) cuts (encode gap') ∧
      (gap' = [] ∨ gap' = ['\n']) ∧ cuts.filterMap Cut.shown? = [] := by
  have hchars : encode b.chars = b.blank.before ++ [lineFeed] := by
    rw [chars, hlines, linesChars, List.flatMap_nil, List.nil_append, LineEnd.encode_chars]
  rw [hchars]
  have hfeed : withoutReturns (b.blank.before ++ [lineFeed]) = [lineFeed] := by
    rw [withoutReturns_append, LineEnd.withoutReturns_before]
    rfl
  rcases hgap with rfl | rfl
  -- The line feed is left over for the next frame.
  · refine ⟨[], ['\n'], ?_, .inr rfl, rfl⟩
    have hnone : Cutting [] place (b.blank.before ++ [lineFeed]) []
        ([] ++ withoutReturns (b.blank.before ++ [lineFeed])) := .none (by rw [hfeed]; decide)
    rw [hfeed] at hnone
    exact hnone
  -- Together with the one left over before, it ends an empty frame, which is not shown.
  · refine ⟨[⟨[], place + b.blank.before.length⟩], [], ?_, .inl rfl, rfl⟩
    have hframe : [lineFeed] ++ withoutReturns b.blank.before = [] ++ [lineFeed] := by
      rw [LineEnd.withoutReturns_before]
      rfl
    exact .first hframe (by decide) (Cutting.nil separator_not_infix_nil _)

/-- A frame with lines is not blank. -/
theorem shown?_text (hlines : b.lines ≠ []) (gap : List Char) (last : Nat) :
    Cut.shown? ⟨encode (b.text gap), last⟩ = some (String.ofList (b.text gap)) := by
  obtain ⟨l, ls, hls⟩ := List.exists_cons_of_ne_nil hlines
  have hcolon : ':' ∈ b.text gap := by
    refine List.mem_append_right _ (Text.mem_joinWith ?_ l.1.colon_mem_chars)
    rw [hls]
    exact List.mem_cons_self
  have hblank : Text.allBlank (b.text gap) = false :=
    List.all_eq_false.mpr ⟨':', hcolon, by decide⟩
  simp [Cut.shown?, Text.Utf8.decode_encode, hblank]

/-! ### Decoding a written stream -/

/-- The lines of a frame are its fields, however it starts. -/
theorem data_ofFrame (hlines : b.lines ≠ []) {gap : List Char} (hgap : gap = [] ∨ gap = ['\n']) :
    (Fields.ofFrame (String.ofList (b.text gap))).data = b.data.reverse := by
  have hjoin : Text.lines (joinWith ['\n'] (b.lines.map fun l => l.1.chars))
      = b.lines.map fun l => l.1.chars :=
    Text.lines_joinWith (fun _ => b.noFeed_of_mem) (fun _ => b.noReturn_of_mem)
      (fun _ => b.ne_nil_of_mem) (by simpa using hlines)
  have hfold : (Text.lines (b.text gap)).foldl Fields.addLine .empty
      = (b.lines.map fun l => l.1.chars).foldl Fields.addLine .empty := by
    rcases hgap with rfl | rfl
    -- A line feed left over before is an empty line, which changes no field.
    · rw [text, List.nil_append, hjoin]
    · rw [text, List.singleton_append, Text.lines_feed_cons, hjoin, List.foldl_cons,
        Fields.addLine_nil]
  have hdata := Fields.data_foldl_addLine (b.lines.map Prod.fst) .empty
  rw [List.map_map] at hdata
  rw [Fields.ofFrame, String.toList_ofList, hfold]
  refine hdata.trans ?_
  rw [List.filterMap_map]
  exact List.append_nil _

end Block

/-- A frame with data is decoded as the text of its data, and one without carries no event. -/
theorem decode_frame (s : String) :
    (Push.Message.frame s).decode = match (Fields.ofFrame s).dataText with
      | none => .ok none
      | some text => (Push.Message.text text).decode := by
  simp only [Push.Message.decode, Message.ofFrame]
  cases (Fields.ofFrame s).dataText with
  | none => rfl
  | some text =>
    dsimp only
    cases DeviceEvent.read text <;> rfl

/-- The result of decoding a message, unless it carries no event. -/
def carried? : Except Json.Fault (Option DeviceEvent) →
    Option (Except Json.Fault (Option DeviceEvent))
  | .ok none => none
  | result => some result

/-- The results of decoding frames, except those that carry no event. -/
def decodeFrames (frames : List String) : List (Except Json.Fault (Option DeviceEvent)) :=
  frames.filterMap fun frame => carried? (Push.Message.frame frame).decode

/-- A text always carries an event, or fails. -/
theorem carried?_text (text : String) :
    carried? (Push.Message.text text).decode = some (Push.Message.text text).decode := by
  simp only [Push.Message.decode]
  cases DeviceEvent.read text <;> rfl

/-- A frame is decoded as the text of its data, and without data it has no result. -/
theorem Block.decodeFrames_text (b : Block) (hlines : b.lines ≠ []) {gap : List Char}
    (hgap : gap = [] ∨ gap = ['\n']) :
    decodeFrames [String.ofList (b.text gap)] = if b.data = [] then []
      else [(Push.Message.text (String.ofList (joinWith ['\n'] b.data))).decode] := by
  rw [decodeFrames, List.filterMap_cons, decode_frame, Fields.dataText, b.data_ofFrame hlines hgap]
  by_cases hdata : b.data = []
  · simp [hdata, carried?]
  · simp [hdata, carried?_text]

/-- The cuts of a frame as it is written, and the results of decoding them. -/
theorem Block.exists_cutting (b : Block) {gap : List Char} (hgap : gap = [] ∨ gap = ['\n'])
    (place : Nat) :
    ∃ cuts gap', Cutting (encode gap) place (encode b.chars) cuts (encode gap') ∧
      (gap' = [] ∨ gap' = ['\n']) ∧
      decodeFrames (cuts.filterMap Cut.shown?) = if b.data = [] then []
        else [(Push.Message.text (String.ofList (joinWith ['\n'] b.data))).decode] := by
  by_cases hlines : b.lines = []
  · obtain ⟨cuts, gap', hcutting, hgap', hshown⟩ := b.cutting_of_blank hlines hgap place
    refine ⟨cuts, gap', hcutting, hgap', ?_⟩
    rw [hshown, Block.data, hlines]
    rfl
  · obtain ⟨last, hcutting⟩ := b.cutting_of_lines hlines hgap place
    refine ⟨_, [], hcutting, .inl rfl, ?_⟩
    rw [← b.decodeFrames_text hlines hgap, List.filterMap_cons, b.shown?_text hlines gap last]
    rfl

theorem decodeFrames_append (frames more : List String) :
    decodeFrames (frames ++ more) = decodeFrames frames ++ decodeFrames more :=
  List.filterMap_append

/-- A stream is decoded frame by frame, whatever was left over before it. -/
theorem exists_cutting_cons (b : Block) {blocks : List Block}
    {results : List (Except Json.Fault (Option DeviceEvent))}
    (h : ∀ gap : List Char, gap = [] ∨ gap = ['\n'] → ∀ place, ∃ cuts rest,
      Cutting (encode gap) place (encode (written blocks)) cuts rest ∧
        decodeFrames (cuts.filterMap Cut.shown?) = results)
    (gap : List Char) (hgap : gap = [] ∨ gap = ['\n']) (place : Nat) :
    ∃ cuts rest, Cutting (encode gap) place (encode (written (b :: blocks))) cuts rest ∧
      decodeFrames (cuts.filterMap Cut.shown?) = (if b.data = [] then []
        else [(Push.Message.text (String.ofList (joinWith ['\n'] b.data))).decode]) ++ results := by
  -- The rest after the first frame is the gap before the next one.
  obtain ⟨cuts, gap', hcuts, hgap', hdecode⟩ := b.exists_cutting hgap place
  obtain ⟨more, rest, hmore, hrest⟩ := h gap' hgap' (place + (encode b.chars).length)
  refine ⟨cuts ++ more, rest, ?_, ?_⟩
  · rw [written, List.flatMap_cons, Text.Utf8.encode_append]
    exact hcuts.append hmore
  · rw [List.filterMap_append, decodeFrames_append, hdecode, hrest]

/-- The cuts of a stream are decoded as the texts that it carries. -/
theorem Carries.exists_cutting {blocks : List Block} {texts : List String}
    (h : Carries blocks texts) : ∀ gap : List Char, gap = [] ∨ gap = ['\n'] → ∀ place,
      ∃ cuts rest, Cutting (encode gap) place (encode (written blocks)) cuts rest ∧
        decodeFrames (cuts.filterMap Cut.shown?)
          = texts.map fun text => (Push.Message.text text).decode := by
  induction h with
  | nil =>
    intro gap hgap place
    refine ⟨[], encode gap, Cutting.nil ?_ place, rfl⟩
    rcases hgap with rfl | rfl <;> decide
  | @skip b blocks texts hdata _ ih =>
    have hcons := exists_cutting_cons b ih
    rwa [if_pos hdata, List.nil_append] at hcons
  | @text b blocks text texts hdata _ ih =>
    have hcons := exists_cutting_cons b ih
    have hne : b.data ≠ [] := hdata ▸ Text.pieces_ne_nil _ _
    rwa [if_neg hne, hdata, Text.joinWith_pieces, String.ofList_toList] at hcons

/-! ### Streams for texts -/

/-- There is a frame for any lines of data. -/
theorem Block.exists_data {parts : List (List Char)} (hfeed : ∀ part ∈ parts, '\n' ∉ part)
    (hreturn : ∀ part ∈ parts, '\r' ∉ part) : ∃ b : Block, b.data = parts := by
  induction parts with
  | nil => exact ⟨⟨[], .feed⟩, rfl⟩
  | cons part parts ih =>
    obtain ⟨b, hb⟩ := ih (fun q hq => hfeed q (List.mem_cons_of_mem _ hq))
      fun q hq => hreturn q (List.mem_cons_of_mem _ hq)
    let line : Line := ⟨part, hfeed part List.mem_cons_self, hreturn part List.mem_cons_self⟩
    exact ⟨⟨(.data line, .feed) :: b.lines, .feed⟩, congrArg (part :: ·) hb⟩

/-- There is a stream for any texts without carriage returns. -/
theorem exists_carries {texts : List String} (h : ∀ text ∈ texts, '\r' ∉ text.toList) :
    ∃ blocks, Carries blocks texts := by
  induction texts with
  | nil => exact ⟨[], .nil⟩
  | cons text texts ih =>
    obtain ⟨blocks, hblocks⟩ := ih fun t ht => h t (List.mem_cons_of_mem _ ht)
    have hfeed : ∀ part ∈ pieces (· == '\n') text.toList, '\n' ∉ part := by
      intro part hpart hmem
      simpa using (Text.mem_of_mem_pieces hpart _ hmem).2
    have hreturn : ∀ part ∈ pieces (· == '\n') text.toList, '\r' ∉ part := fun part hpart hmem =>
      h text List.mem_cons_self (Text.mem_of_mem_pieces hpart _ hmem).1
    obtain ⟨b, hb⟩ := Block.exists_data hfeed hreturn
    exact ⟨b :: blocks, .text hb hblocks⟩

/-- Texts can be carried by event streams, and each stream that carries them is decoded, in
whatever chunks it comes, to what the texts are decoded to one by one. -/
theorem decode_carried_texts (texts : List String) (hreturn : ∀ text ∈ texts, '\r' ∉ text.toList) :
    (∃ blocks, Carries blocks texts) ∧
      ∀ (blocks : List Block) (chunks : List (List UInt8)), Carries blocks texts →
        chunks.flatten = encode (written blocks) →
        decodeFrames (Decoder.new.pushAll chunks).1.flatten
          = texts.map fun text => (Push.Message.text text).decode := by
  refine ⟨exists_carries hreturn, fun blocks chunks hcarries hchunks => ?_⟩
  obtain ⟨cuts, rest, hcutting, hdecode⟩ := hcarries.exists_cutting [] (.inl rfl) 0
  rw [← hchunks] at hcutting
  have hpush : Decoder.new.pushAll chunks = (shares cuts 0 chunks, ⟨rest⟩) :=
    hcutting.pushAll_eq separator_not_infix_nil
  rw [hpush, hcutting.flatten_shares separator_not_infix_nil, hdecode]

/-- A stream with a blank line first, a comment, fields around the data and both line ends. -/
def mixedStream : List Block :=
  [⟨[], .returnFeed⟩,
    ⟨[(.other .comment ⟨" on".toList, by decide, by decide⟩, .feed)], .returnFeed⟩,
    ⟨[(.other .id ⟨" 7".toList, by decide, by decide⟩, .returnFeed),
      (.data ⟨"1".toList, by decide, by decide⟩, .returnFeed),
      (.other .event ⟨" e".toList, by decide, by decide⟩, .feed),
      (.data ⟨"é".toList, by decide, by decide⟩, .feed)], .feed⟩,
    ⟨[], .feed⟩,
    ⟨[(.data ⟨"{}".toList, by decide, by decide⟩, .feed)], .returnFeed⟩]

/-- The stream octet by octet. -/
theorem decode_mixedStream :
    (∀ text ∈ ["1\né", "{}"], '\r' ∉ text.toList) ∧ Carries mixedStream ["1\né", "{}"] ∧
      ((encode (written mixedStream)).map fun b => [b]).flatten = encode (written mixedStream) ∧
      decodeFrames (Decoder.new.pushAll ((encode (written mixedStream)).map fun b => [b])).1.flatten
        = ["1\né", "{}"].map fun text => (Push.Message.text text).decode := by
  have hreturn : ∀ text ∈ ["1\né", "{}"], '\r' ∉ text.toList := by decide
  have hcarries : Carries mixedStream ["1\né", "{}"] :=
    .skip rfl (.skip rfl (.text (by decide) (.skip rfl (.text (by decide) .nil))))
  have hchunks : ((encode (written mixedStream)).map fun b => [b]).flatten
      = encode (written mixedStream) := by
    rw [← List.flatMap_def, List.flatMap_singleton']
  exact ⟨hreturn, hcarries, hchunks,
    (decode_carried_texts _ hreturn).2 mixedStream _ hcarries hchunks⟩

end CameraFeed.EventStream
