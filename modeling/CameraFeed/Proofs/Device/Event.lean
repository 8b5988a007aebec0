import CameraFeed.Proofs.Json.Printing
import CameraFeed.Proofs.Json.Record
import CameraFeed.Proofs.Time.Stamp
import CameraFeed.Push.Message

/-! # Event — decoding an event from the members of an object

  `DeviceEvent.read` finds the fields of an event in any order, with any white space between the
  tokens and any spelling of the strings, and skips members under other names. Only `data` may be
  missing, and no field may be given twice. -/

namespace CameraFeed

open Json (Exact Gives Lists Written fitsSigned)

/-- An identifier as a value. -/
def EventId.json : EventId → Json
  | number n => .number (.integer n)
  | text s => .text s

/-- A number in an identifier is one of a signed word. -/
def EventId.Fits : EventId → Prop
  | number n => fitsSigned n = true
  | text _ => True

namespace DeviceEvent

/-- The names of the fields. -/
def fieldNames : List String :=
  ["id", "device_uuid", "code", "action", "index", "data", "created_at"]

/-- The members of an event with the stamp of its creation. -/
def told (e : DeviceEvent) (created : Time.Stamp) : List (String × Json) :=
  [("id", e.id.json), ("device_uuid", .text e.device), ("code", .text e.code),
    ("action", .text e.action), ("index", .number (.integer e.index)), ("data", e.data),
    ("created_at", .text (String.ofList created.text))]

/-- The event has a text: its numbers fit a signed word, its payload has no floating-point numbers
and no more brackets than are left inside the event, and its time is that of a stamp. -/
structure Tellable (e : DeviceEvent) (created : Time.Stamp) : Prop where
  id : e.id.Fits
  index : fitsSigned e.index = true
  data : Exact 126 e.data
  createdAt : e.createdAt = created.instant

/-- The draft of an event after some of its fields. -/
def collected (e : DeviceEvent) (names : List String) : Draft where
  id := if "id" ∈ names then some e.id else none
  device := if "device_uuid" ∈ names then some e.device else none
  code := if "code" ∈ names then some e.code else none
  action := if "action" ∈ names then some e.action else none
  index := if "index" ∈ names then some e.index else none
  data := if "data" ∈ names then some e.data else none
  createdAt := if "created_at" ∈ names then some e.createdAt else none

/-! ### Fields -/

section fields
variable {v : Json} {cs rest : List Char} {c : Json.Cursor} {room : Nat}

theorem gives_readId (h : Written v cs) (hrest : Json.Ends rest)
    (hc : c.skipSpaces.rest = cs ++ rest) :
    Gives (readId room c) rest (fun _ => True) True := by
  refine ((h.reads room c rest hrest hc).imp (fun _ _ => trivial) fun _ => trivial).bind ?_
  intro w c' hc' _
  cases hid : idOf? w with
  | some id =>
    simp only [hid]
    exact ⟨hc', trivial⟩
  | none =>
    simp only [hid]
    trivial

theorem exact_json {id : EventId} (h : id.Fits) : Exact room id.json := by
  cases id with
  | number n =>
    simp only [EventId.Fits, fitsSigned, Bool.and_eq_true, decide_eq_true_eq] at h
    exact .integer h.1 (Int.lt_trans h.2 (by decide))
  | text s => exact .text s

theorem idOf?_json {id : EventId} (h : id.Fits) : idOf? id.json = some id := by
  cases id with
  | number n => exact if_pos h
  | text s => rfl

/-- An identifier is read as a number or a text. -/
theorem gives_readId_json {id : EventId} (h : Written id.json cs) (hid : id.Fits)
    (hrest : Json.Ends rest) (hc : c.skipSpaces.rest = cs ++ rest) :
    Gives (readId room c) rest (· = id) False := by
  have hread := h.reads room c rest hrest hc
  refine (hread.imp (fun w hw => hw (exact_json hid)) fun hnot => hnot (exact_json hid)).bind ?_
  rintro w c' hc' rfl
  simp only [idOf?_json hid]
  exact ⟨hc', rfl⟩

end fields

/-- The text of a stamp is read as its instant. -/
theorem instantOf_text (created : Time.Stamp) :
    instantOf (String.ofList created.text) = .ok created.instant := by
  unfold instantOf
  rw [String.toList_ofList, Time.Rfc3339.read_text]

/-- Reading the value of a field sets that field and no other. -/
theorem gives_set : ∀ f ∈ shape.fields, ∀ {v : Json} {cs : List Char}, Written v cs →
    ∀ (d : Draft) (c : Json.Cursor) (rest : List Char), Json.Ends rest →
      c.skipSpaces.rest = cs ++ rest →
      Gives (f.read 126 d c) rest
        (fun d' => ∀ g ∈ shape.fields, g.isSet d' = (g.isSet d || g.name == f.name)) True := by
  intro f hf v cs hwritten d c rest hrest hc
  simp only [shape, List.mem_cons, List.not_mem_nil, or_false] at hf
  rcases hf with rfl | rfl | rfl | rfl | rfl | rfl | rfl
  · refine (gives_readId hwritten hrest hc).bind fun _ _ hc' _ => ⟨hc', ?_⟩
    simp [shape]
  · refine (Json.gives_readMeaning hwritten hc).bind fun _ _ hc' _ => ⟨hc', ?_⟩
    simp [shape]
  · refine (Json.gives_readMeaning hwritten hc).bind fun _ _ hc' _ => ⟨hc', ?_⟩
    simp [shape]
  · refine (Json.gives_readMeaning hwritten hc).bind fun _ _ hc' _ => ⟨hc', ?_⟩
    simp [shape]
  · refine (Json.gives_readSigned hwritten hrest hc).bind fun _ _ hc' _ => ⟨hc', ?_⟩
    simp [shape]
  · have hread := hwritten.reads 126 c rest hrest hc
    refine (hread.imp (fun _ _ => trivial) fun _ => trivial).bind fun _ _ hc' _ => ⟨hc', ?_⟩
    simp [shape]
  · refine (Json.gives_readMeaning hwritten hc).bind fun _ _ hc' _ => ⟨hc', ?_⟩
    simp [shape]

/-- The value of a field of the event sets the field in the draft. -/
theorem gives_collected {e : DeviceEvent} {created : Time.Stamp} (h : e.Tellable created) :
    ∀ f ∈ shape.fields, ∀ {v : Json} {cs : List Char}, Written v cs →
      (f.name, v) ∈ e.told created → ∀ (names : List String) (c : Json.Cursor) (rest : List Char),
      Json.Ends rest → c.skipSpaces.rest = cs ++ rest →
      Gives (f.read 126 (e.collected names) c) rest (· = e.collected (names ++ [f.name]))
        False := by
  intro f hf v cs hwritten hv names c rest hrest hc
  -- One case for each field, whose name determines the value among the members.
  simp only [shape, List.mem_cons, List.not_mem_nil, or_false] at hf
  rcases hf with rfl | rfl | rfl | rfl | rfl | rfl | rfl
  · obtain rfl : v = e.id.json := by simpa [told] using hv
    refine (gives_readId_json hwritten h.id hrest hc).bind ?_
    rintro id c' hc' rfl
    exact ⟨hc', by simp [collected]⟩
  · obtain rfl : v = .text e.device := by simpa [told] using hv
    refine (Json.gives_readMeaning_text hwritten.isText rfl hc).bind ?_
    rintro s c' hc' rfl
    exact ⟨hc', by simp [collected]⟩
  · obtain rfl : v = .text e.code := by simpa [told] using hv
    refine (Json.gives_readMeaning_text hwritten.isText rfl hc).bind ?_
    rintro s c' hc' rfl
    exact ⟨hc', by simp [collected]⟩
  · obtain rfl : v = .text e.action := by simpa [told] using hv
    refine (Json.gives_readMeaning_text hwritten.isText rfl hc).bind ?_
    rintro s c' hc' rfl
    exact ⟨hc', by simp [collected]⟩
  · obtain rfl : v = .number (.integer e.index) := by simpa [told] using hv
    cases hwritten
    refine (Json.gives_readSigned_integer h.index hrest hc).bind ?_
    rintro n c' hc' rfl
    exact ⟨hc', by simp [collected]⟩
  · obtain rfl : v = e.data := by simpa [told] using hv
    have hread := hwritten.reads 126 c rest hrest hc
    refine (hread.imp (fun w hw => hw h.data) fun hnot => hnot h.data).bind ?_
    rintro w c' hc' rfl
    exact ⟨hc', by simp [collected]⟩
  · obtain rfl : v = .text (String.ofList created.text) := by simpa [told] using hv
    refine (Json.gives_readMeaning_text hwritten.isText (instantOf_text created) hc).bind ?_
    rintro t c' hc' rfl
    exact ⟨hc', by simp [collected, h.createdAt]⟩

/-- The fields of an event are read as those of a record are. -/
theorem lawful {e : DeviceEvent} {created : Time.Stamp} (h : e.Tellable created) :
    shape.Lawful 126 (e.told created) e.collected :=
  ⟨rfl, by decide, gives_set, gives_collected h⟩

/-- The fields are lawful without any expected values. -/
theorem lawful_nil : shape.Lawful 126 [] fun _ => shape.blank :=
  ⟨rfl, by decide, gives_set, nofun⟩

/-! ### Whole events -/

theorem knows_iff (name : String) : shape.Knows name ↔ name ∈ fieldNames := by
  simp [Json.Shape.Knows, shape, fieldNames, eq_comm]

/-- A field that is needed is set if `finish` gives an event. -/
theorem isSome_of_needed {α β : Type} {name : String} {x : Option α} {k : α → Except String β}
    {b : β} (h : (Device.needed name x >>= k) = .ok b) : ∃ a, x = some a ∧ k a = .ok b := by
  cases x with
  | none => cases h
  | some a => exact ⟨a, rfl, h⟩

/-- An event needs all its fields but the payload. -/
theorem isSet_of_finish {d : Draft} {e : DeviceEvent} (h : shape.finish d = .ok e) :
    ∀ f ∈ shape.fields, f.name ≠ "data" → f.isSet d = true := by
  obtain ⟨id, hid, h⟩ := isSome_of_needed h
  obtain ⟨device, hdevice, h⟩ := isSome_of_needed h
  obtain ⟨code, hcode, h⟩ := isSome_of_needed h
  obtain ⟨action, haction, h⟩ := isSome_of_needed h
  obtain ⟨index, hindex, h⟩ := isSome_of_needed h
  obtain ⟨createdAt, hcreatedAt, -⟩ := isSome_of_needed h
  simp [shape, hid, hdevice, hcode, haction, hindex, hcreatedAt]

theorem finish_collected (e : DeviceEvent) {names : List String}
    (h : ∀ name ∈ fieldNames, name ≠ "data" → name ∈ names) :
    shape.finish (e.collected names)
      = .ok (if "data" ∈ names then e else { e with data := .null }) := by
  have hid := h "id" (by decide) (by decide)
  have hdevice := h "device_uuid" (by decide) (by decide)
  have hcode := h "code" (by decide) (by decide)
  have haction := h "action" (by decide) (by decide)
  have hindex := h "index" (by decide) (by decide)
  have hcreatedAt := h "created_at" (by decide) (by decide)
  unfold collected
  simp only [hid, hdevice, hcode, haction, hindex, hcreatedAt, if_true]
  by_cases hdata : "data" ∈ names
  · simp only [hdata, if_true]
    rfl
  · simp only [hdata, if_false]
    rfl

/-- None of the members has the name of a field. -/
def Unknown (members : List (String × Json)) : Prop := ∀ m ∈ members, m.1 ∉ fieldNames

/-- Of fields among unknown members the fields are known. -/
theorem known_append_unknown {fields extra : List (String × Json)}
    (hfields : ∀ m ∈ fields, m.1 ∈ fieldNames) (hextra : Unknown extra) :
    shape.known (fields ++ extra) = fields := by
  have hall : shape.known fields = fields :=
    List.filter_eq_self.mpr fun m hm => decide_eq_true ((knows_iff _).mpr (hfields m hm))
  have hnone : shape.known extra = [] := by
    refine List.filter_eq_nil_iff.mpr ?_
    intro m hm hknows
    exact hextra m hm ((knows_iff _).mp (of_decide_eq_true hknows))
  rw [Json.Shape.known_append, hall, hnone, List.append_nil]

theorem names_told (e : DeviceEvent) (created : Time.Stamp) :
    (e.told created).map Prod.fst = fieldNames := rfl

/-- An event is read from its fields, with unknown members between them. -/
theorem read_of_perm {e : DeviceEvent} {created : Time.Stamp} (he : e.Tellable created)
    {fields extra members : List (String × Json)} {text : String}
    (htext : Lists members text.toList) (hfields : fields.Sublist (e.told created))
    (hneeded : ∀ name ∈ fieldNames, name ≠ "data" → name ∈ fields.map Prod.fst)
    (hextra : Unknown extra) (hperm : members.Perm (fields ++ extra)) :
    read text = .ok (if "data" ∈ fields.map Prod.fst then e else { e with data := .null }) := by
  have hnames : (fields.map Prod.fst).Sublist fieldNames :=
    names_told e created ▸ hfields.map Prod.fst
  -- The unknown members are skipped, so the known ones are the fields in some order.
  have hknown : (shape.known members).Perm fields := by
    have hfilter := hperm.filter fun m => decide (shape.Knows m.1)
    rwa [show List.filter _ (fields ++ extra) = _ from known_append_unknown
      (fun m hm => hnames.subset (List.mem_map_of_mem hm)) hextra] at hfilter
  have hexpected : shape.Expected (e.told created) members := by
    refine ⟨?_, ?_⟩
    · intro m hm
      exact hfields.subset (hknown.mem_iff.mp hm)
    · have hnodup : fieldNames.Nodup := by decide
      exact (hknown.map Prod.fst).nodup_iff.mpr (hnodup.sublist hnames)
  have hmem : ∀ name, name ∈ (shape.known members).map Prod.fst ↔ name ∈ fields.map Prod.fst :=
    fun name => (hknown.map Prod.fst).mem_iff
  refine (lawful he).readWhole_eq rfl htext hexpected ?_
  rw [finish_collected e fun name hname hdata => (hmem name).mpr (hneeded name hname hdata)]
  simp only [hmem]

/-- A text that is read as an event has the six fields that are needed, and none of the seven twice.
-/
theorem names_of_read {members : List (String × Json)} {text : String} {e : DeviceEvent}
    (htext : Lists members text.toList) (hread : read text = .ok e) :
    ∀ name ∈ fieldNames, (name ≠ "data" → name ∈ members.map Prod.fst) ∧
      (members.map Prod.fst).count name ≤ 1 := by
  obtain ⟨d, hafter, hfinish⟩ := lawful_nil.after_of_readWhole rfl htext hread
  intro name hname
  obtain ⟨f, hf, rfl⟩ := (knows_iff name).mpr hname
  refine ⟨?_, ?_⟩
  · intro hdata
    exact (hafter.isSet f hf).mp (isSet_of_finish hfinish f hf hdata)
  · have hnodup := List.nodup_iff_count_le_one.mp hafter.nodup f.name
    rwa [Json.Shape.count_known hf] at hnodup

/-- A text that is not read as an event is refused. -/
theorem exists_fault {text : String} (h : ∀ e, read text ≠ .ok e) :
    ∃ fault, (Push.Message.text text).decode = .error fault := by
  cases hread : read text with
  | ok e => exact absurd hread (h e)
  | error fault => exact ⟨fault, congrArg (some <$> ·) hread⟩

/-- A text that lists the members of an event in any order, among unknown ones, is decoded to that
event; without its data, to the event with null data. A text without one of the other six fields, or
with one of the seven twice, is refused. Every event that is created at a second of a year of four
digits has such members. -/
theorem decode_of_members {members : List (String × Json)} {text : String}
    (htext : Lists members text.toList) :
    (∀ (e : DeviceEvent) (created : Time.Stamp) (extra : List (String × Json)),
      e.Tellable created → Unknown extra → members.Perm (e.told created ++ extra) →
        (Push.Message.text text).decode = .ok (some e)) ∧
    (∀ (e : DeviceEvent) (created : Time.Stamp) (extra : List (String × Json)),
      e.Tellable created → Unknown extra →
        members.Perm ((e.told created).filter (fun m => m.1 != "data") ++ extra) →
        (Push.Message.text text).decode = .ok (some { e with data := .null })) ∧
    (∀ name ∈ fieldNames, name ≠ "data" → name ∉ members.map Prod.fst →
      ∃ fault, (Push.Message.text text).decode = .error fault) ∧
    (∀ name ∈ fieldNames, 2 ≤ (members.map Prod.fst).count name →
      ∃ fault, (Push.Message.text text).decode = .error fault) ∧
    ∀ e : DeviceEvent, e.id.Fits → fitsSigned e.index = true → Exact 126 e.data →
      e.createdAt.nanos = 0 → Time.fourDigitSeconds.1 ≤ e.createdAt.seconds →
        e.createdAt.seconds < Time.fourDigitSeconds.2 → ∃ created, e.Tellable created := by
  refine ⟨?_, ?_, ?_, ?_, ?_⟩
  · intro e created extra he hextra hperm
    have hread := read_of_perm he htext (List.Sublist.refl _) (fun _ hname _ => hname) hextra hperm
    have hdata : "data" ∈ (e.told created).map Prod.fst := by simp [told]
    rw [if_pos hdata] at hread
    exact congrArg (some <$> ·) hread
  · intro e created extra he hextra hperm
    -- Without `data`, all other names are still there.
    have hneeded : ∀ name ∈ fieldNames, name ≠ "data" →
        name ∈ ((e.told created).filter fun m => m.1 != "data").map Prod.fst := by
      intro name hname hdata
      simp only [fieldNames, List.mem_cons, List.not_mem_nil, or_false] at hname
      rcases hname with rfl | rfl | rfl | rfl | rfl | rfl | rfl <;> simp_all [told]
    have hread := read_of_perm he htext List.filter_sublist hneeded hextra hperm
    have hdata : "data" ∉ ((e.told created).filter fun m => m.1 != "data").map Prod.fst := by
      simp
    rw [if_neg hdata] at hread
    exact congrArg (some <$> ·) hread
  · intro name hname hdata hmissing
    refine exists_fault fun e hread => hmissing ?_
    exact (names_of_read htext hread name hname).1 hdata
  · intro name hname hrepeated
    refine exists_fault fun e hread => ?_
    have hcount := (names_of_read htext hread name hname).2
    omega
  · intro e hid hindex hdata hnanos hlow hhigh
    obtain ⟨created, hcreated⟩ := Time.Stamp.exists_instant hnanos hlow hhigh
    exact ⟨created, hid, hindex, hdata, hcreated.symm⟩

/-- Noon of a leap day. -/
def leapNoon : Time.Stamp where
  year := 2024
  month := 2
  day := 29
  hour := 12
  minute := 0
  second := 0
  year_lt := by decide
  isValid := by decide
  hour_lt := by decide
  minute_lt := by decide
  second_lt := by decide

/-- An event with numbers at both ends of a signed word. -/
def edgeEvent : DeviceEvent where
  id := .number (-9223372036854775808)
  device := "gate\n"
  code := "VideoMotion"
  action := "Start"
  index := 9223372036854775807
  data := .object [("a", .array [.null]), ("b", .boolean true)]
  createdAt := leapNoon.instant

theorem edgeEvent_tellable : edgeEvent.Tellable leapNoon where
  id := show fitsSigned (-9223372036854775808) = true by decide
  index := by decide
  data := by
    refine .object ?_ (by decide)
    intro m hm
    simp only [List.mem_cons, List.not_mem_nil, or_false] at hm
    rcases hm with rfl | rfl
    · refine .array ?_
      intro v hv
      rw [List.mem_singleton.mp hv]
      exact .null
    · exact .boolean true
  createdAt := rfl

/-- The members of the event from its last field to its first, after one without meaning. -/
def edgeMembers : List (String × Json) :=
  ("note", .array [.object []]) :: (edgeEvent.told leapNoon).reverse

theorem exact_edgeMembers : ∀ m ∈ edgeMembers, Exact 126 m.2 := by
  intro m hm
  have hevent := edgeEvent_tellable
  simp only [edgeMembers, told, List.reverse_cons, List.reverse_nil, List.nil_append,
    List.cons_append, List.mem_cons, List.not_mem_nil, or_false] at hm
  rcases hm with rfl | rfl | rfl | rfl | rfl | rfl | rfl | rfl
  · refine .array ?_
    intro v hv
    rw [List.mem_singleton.mp hv]
    exact .object nofun .nil
  · exact .text _
  · exact hevent.data
  · exact .integer (by decide) (by decide)
  · exact .text _
  · exact .text _
  · exact .text _
  · exact exact_json hevent.id

/-- The text of these members, each on a line of its own. -/
def edgeText : String :=
  String.ofList ('\x7b' :: (Json.prettyMembers 1 edgeMembers ++ ['\x7d']))

theorem lists_edgeText : Lists edgeMembers edgeText.toList := by
  rw [edgeText, String.toList_ofList]
  exact Json.lists_prettyMembers 1 exact_edgeMembers

/-- The fields of an event are read from its last one to its first. -/
theorem decode_of_edgeText : (Push.Message.text edgeText).decode = .ok (some edgeEvent) := by
  refine (decode_of_members lists_edgeText).1 edgeEvent leapNoon [("note", .array [.object []])]
    edgeEvent_tellable ?_ ?_
  · intro m hm
    rw [List.mem_singleton.mp hm]
    decide
  · have hreversed : (edgeEvent.told leapNoon).reverse.Perm (edgeEvent.told leapNoon) :=
      List.reverse_perm _
    exact (hreversed.cons _).trans (List.perm_append_singleton _ _).symm

end DeviceEvent

end CameraFeed
