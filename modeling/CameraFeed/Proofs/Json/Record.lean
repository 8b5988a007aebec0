import CameraFeed.Json.Record
import CameraFeed.Proofs.Json.Skipping
import Mathlib.Data.List.Nodup

/-! # Record — a record is read whatever the order of its members

  `Lawful` says of a kind of record that its fields read written values, each setting itself and no
  other. `told` are the values that are expected, and what is collected after some of them depends
  on which they are only. For such a record, members under other names do not matter, a field given
  twice is refused, and what the members say is collected otherwise.

  The readers of one kind of content stand in front: each takes the values of that kind and refuses
  those of another kind. -/

namespace CameraFeed.Json

variable {c : Cursor} {rest : List Char} {v : Json} {cs : List Char}

/-! ### Content of one kind -/

/-- A mismatch is never a value. -/
theorem gives_mismatch {α : Type} {post : α → Prop} (expected : String) (c : Cursor) :
    Gives (mismatch expected c) rest post True := by
  unfold mismatch
  split
  · trivial
  · trivial
  · split
    · trivial
    · split
      · trivial
      · split <;> trivial

/-- The first character of the value at the cursor decides its kind. -/
theorem Written.peek?_first (h : Written v cs) (hc : c.skipSpaces.rest = cs ++ rest) :
    ∃ x more, cs = x :: more ∧ c.skipSpaces.peek? = some x := by
  obtain ⟨x, more, rfl, -⟩ := h.begins
  exact ⟨x, more, rfl, Cursor.peek?_of_rest hc⟩

/-- Only a string begins with a quotation mark. -/
theorem Written.isText_of_quote {more : List Char} (h : Written v cs) (hcs : cs = '"' :: more) :
    ∃ s, IsText s cs := by
  cases h with
  | null | yes | no | array s h | object s hperm h => cases hcs
  | integer n =>
    obtain ⟨x, xs, hx, hfirst⟩ := (isNumber_signedDigits n).exists_cons
    rw [hx] at hcs
    obtain ⟨rfl, -⟩ := List.cons.inj hcs
    exact absurd hfirst (by decide)
  | float h =>
    obtain ⟨x, xs, rfl, hfirst⟩ := h.exists_cons
    obtain ⟨rfl, -⟩ := List.cons.inj hcs
    exact absurd hfirst (by decide)
  | @text s cs h => exact ⟨s, h⟩

theorem Written.isText {s : String} (h : Written (.text s) cs) : IsText s cs := by
  cases h with
  | text h => exact h

/-- Only a number begins with a digit or a minus sign. -/
theorem Written.isNumber_of_first {x : Char} {more : List Char} (h : Written v cs)
    (hcs : cs = x :: more) (hx : x = '-' ∨ Decimal.isDigit x = true) : IsNumber cs := by
  cases h with
  | integer n => exact isNumber_signedDigits n
  | float h => exact h
  | null | yes | no | array s h | object s hperm h =>
    cases hcs
    exact absurd hx (by decide)
  | text h =>
    obtain ⟨text, rfl, -⟩ := h.exists_spelled
    cases hcs
    exact absurd hx (by decide)

section meaning
variable {α : Type} {expected : String} {meaning : String → Except String α}

theorem gives_meaning {s : String} (h : IsText s cs) (hc : c.skipSpaces.rest = cs ++ rest) :
    Gives (readMeaning expected meaning c) rest (fun a => meaning s = .ok a)
      (∀ a, meaning s ≠ .ok a) := by
  obtain ⟨text, rfl, hspelled⟩ := h.exists_spelled
  have hquoted : c.skipSpaces.rest = '"' :: (text ++ '"' :: rest) := by
    rw [hc]
    simp
  unfold readMeaning
  simp only [Cursor.peek?_of_rest hquoted, if_true]
  refine (gives_readString hspelled (Cursor.rest_eat hquoted)).sure.bind ?_
  rintro s' c' hc' rfl
  cases hmeaning : meaning s' with
  | ok a => exact ⟨hc', rfl⟩
  | error reason => exact nofun

/-- A string with a meaning is read as its meaning. -/
theorem gives_readMeaning_text {s : String} {a : α} (h : IsText s cs) (hmeaning : meaning s = .ok a)
    (hc : c.skipSpaces.rest = cs ++ rest) :
    Gives (readMeaning expected meaning c) rest (· = a) False := by
  refine (gives_meaning h hc).imp ?_ fun hfail => hfail a hmeaning
  intro b hb
  exact (Except.ok.inj (hmeaning.symm.trans hb)).symm

/-- The reader of any value ends where the value ends. -/
theorem gives_readMeaning (h : Written v cs) (hc : c.skipSpaces.rest = cs ++ rest) :
    Gives (readMeaning expected meaning c) rest (fun _ => True) True := by
  obtain ⟨x, more, hcs, hpeek⟩ := h.peek?_first hc
  by_cases hx : x = '"'
  · subst hx
    obtain ⟨s, htext⟩ := h.isText_of_quote hcs
    exact (gives_meaning htext hc).imp (fun _ _ => trivial) fun _ => trivial
  · unfold readMeaning
    simp only [hpeek, Option.some.injEq, hx, if_false]
    exact gives_mismatch expected _

end meaning

/-- A whole number of a signed word is read as such. -/
theorem gives_readSigned_integer {n : Int} (hfits : fitsSigned n = true) (hrest : Ends rest)
    (hc : c.skipSpaces.rest = Decimal.signedDigits n ++ rest) :
    Gives (readSigned c) rest (· = n) False := by
  obtain ⟨x, more, hcs, hpeek⟩ := (Written.integer n).peek?_first hc
  have hx : x = '-' ∨ Decimal.isDigit x = true := by
    obtain ⟨y, ys, hy, hfirst⟩ := (isNumber_signedDigits n).exists_cons
    rw [hcs] at hy
    exact (List.cons.inj hy).1 ▸ hfirst
  have hcond : (c.skipSpaces.peek?.any fun x => x == '-' || Decimal.isDigit x) = true := by
    simpa [hpeek] using hx
  have hbounds := hfits
  simp only [fitsSigned, Bool.and_eq_true, decide_eq_true_eq] at hbounds
  have hlow : -2 ^ 63 ≤ n := hbounds.1
  have hhigh : n < 2 ^ 64 := Int.lt_trans hbounds.2 (by decide)
  unfold readSigned
  simp only [hcond, if_true]
  refine (gives_readNumber_integer hlow hhigh hrest hc).bind ?_
  rintro m c' hc' rfl
  simp only [hfits, if_true]
  exact ⟨hc', rfl⟩

/-- The reader of any value ends where the value ends. -/
theorem gives_readSigned (h : Written v cs) (hrest : Ends rest)
    (hc : c.skipSpaces.rest = cs ++ rest) : Gives (readSigned c) rest (fun _ => True) True := by
  obtain ⟨x, more, hcs, hpeek⟩ := h.peek?_first hc
  have hcond : (c.skipSpaces.peek?.any fun x => x == '-' || Decimal.isDigit x) = true
      ↔ x = '-' ∨ Decimal.isDigit x = true := by simp [hpeek]
  unfold readSigned
  by_cases hx : x = '-' ∨ Decimal.isDigit x = true
  · simp only [hcond.mpr hx, if_true]
    refine (gives_readNumber (h.isNumber_of_first hcs hx) hrest hc).bind ?_
    intro n c' hc' _
    cases n with
    | integer n =>
      by_cases hfits : fitsSigned n = true
      · simp only [hfits, if_true]
        exact ⟨hc', trivial⟩
      · simp only [hfits]
        trivial
    | float y => trivial
  · simp only [mt hcond.mp hx]
    exact gives_mismatch "i64" _

/-! ### Records -/

namespace Shape

variable {σ α : Type}

/-- The fields of a record read written values. Each sets itself and no other, and of the values
that are expected it collects its own. -/
structure Lawful (s : Shape σ α) (room : Nat) (told : List (String × Json))
    (collected : List String → σ) : Prop where
  /-- Nothing is collected at first. -/
  collected_nil : collected [] = s.blank
  isSet_blank : ∀ f ∈ s.fields, f.isSet s.blank = false
  /-- Whatever value is there, reading it sets the field. -/
  sets : ∀ f ∈ s.fields, ∀ {v : Json} {cs : List Char}, Written v cs →
    ∀ (d : σ) (c : Cursor) (rest : List Char), Ends rest → c.skipSpaces.rest = cs ++ rest →
      Gives (f.read room d c) rest
        (fun d' => ∀ g ∈ s.fields, g.isSet d' = (g.isSet d || g.name == f.name)) True
  /-- The expected value is collected. -/
  collects : ∀ f ∈ s.fields, ∀ {v : Json} {cs : List Char}, Written v cs → (f.name, v) ∈ told →
    ∀ (names : List String) (c : Cursor) (rest : List Char), Ends rest →
      c.skipSpaces.rest = cs ++ rest →
      Gives (f.read room (collected names) c) rest (· = collected (names ++ [f.name])) False

variable {s : Shape σ α} {room : Nat} {told : List (String × Json)} {collected : List String → σ}
  {c : Cursor} {rest : List Char}

/-- The record has a field of that name. -/
def Knows (s : Shape σ α) (name : String) : Prop := ∃ f ∈ s.fields, f.name = name

instance (s : Shape σ α) (name : String) : Decidable (s.Knows name) :=
  inferInstanceAs (Decidable (∃ f ∈ s.fields, f.name = name))

/-- The members that the record has fields for. -/
def known (s : Shape σ α) (members : List (String × Json)) : List (String × Json) :=
  members.filter fun m => s.Knows m.1

/-- The members are what is expected, each at most once. -/
structure Expected (s : Shape σ α) (told members : List (String × Json)) : Prop where
  told : ∀ m ∈ s.known members, m ∈ told
  nodup : ((s.known members).map Prod.fst).Nodup

/-- The draft after some members. -/
structure After (s : Shape σ α) (told : List (String × Json)) (collected : List String → σ)
    (done : List (String × Json)) (d : σ) : Prop where
  isSet : ∀ f ∈ s.fields, (f.isSet d = true ↔ f.name ∈ done.map Prod.fst)
  nodup : ((s.known done).map Prod.fst).Nodup
  collected : (∀ m ∈ s.known done, m ∈ told) → d = collected ((s.known done).map Prod.fst)

theorem Lawful.after_nil (h : s.Lawful room told collected) :
    s.After told collected [] s.blank := by
  refine ⟨?_, List.nodup_nil, fun _ => h.collected_nil.symm⟩
  intro f hf
  simp [h.isSet_blank f hf]

theorem known_append (members members' : List (String × Json)) :
    s.known (members ++ members') = s.known members ++ s.known members' :=
  List.filter_append _ _

theorem known_singleton (m : String × Json) : s.known [m] = if s.Knows m.1 then [m] else [] := by
  simp [known, List.filter_singleton]

/-- The name of a field is among the known ones if it is there. -/
theorem name_mem_known {f : Field σ} (hf : f ∈ s.fields) (members : List (String × Json)) :
    f.name ∈ (s.known members).map Prod.fst ↔ f.name ∈ members.map Prod.fst := by
  have hknows : s.Knows f.name := ⟨f, hf, rfl⟩
  simp only [known, List.mem_map, List.mem_filter, decide_eq_true_eq]
  constructor
  · rintro ⟨m, ⟨hm, -⟩, hname⟩
    exact ⟨m, hm, hname⟩
  · rintro ⟨m, hm, hname⟩
    exact ⟨m, ⟨hm, hname ▸ hknows⟩, hname⟩

/-- As often as the name of a field is there, it is among the known ones. -/
theorem count_known {f : Field σ} (hf : f ∈ s.fields) (members : List (String × Json)) :
    ((s.known members).map Prod.fst).count f.name = (members.map Prod.fst).count f.name := by
  have hknows : decide (s.Knows f.name) = true := decide_eq_true ⟨f, hf, rfl⟩
  have hnames : (s.known members).map Prod.fst
      = (members.map Prod.fst).filter fun name => s.Knows name := by
    rw [List.filter_map]
    rfl
  rw [hnames]
  exact List.count_filter hknows

/-- A member without a field changes nothing. -/
theorem After.skipped {done : List (String × Json)} {m : String × Json} {d : σ}
    (h : s.After told collected done d) (hm : ¬ s.Knows m.1) :
    s.After told collected (done ++ [m]) d := by
  have hknown : s.known (done ++ [m]) = s.known done := by
    rw [known_append, known_singleton, if_neg hm, List.append_nil]
  refine ⟨?_, hknown ▸ h.nodup, hknown ▸ h.collected⟩
  intro f hf
  have hne : f.name ≠ m.1 := fun heq => hm ⟨f, hf, heq⟩
  rw [h.isSet f hf]
  simp [hne]

/-- A member with a field sets it. -/
theorem After.set {done : List (String × Json)} {f : Field σ} {v : Json} {d d' : σ}
    (h : s.After told collected done d) (hf : f ∈ s.fields) (hnew : f.isSet d = false)
    (hset : ∀ g ∈ s.fields, g.isSet d' = (g.isSet d || g.name == f.name))
    (hcollected : (f.name, v) ∈ told → (∀ m ∈ s.known done, m ∈ told) →
      d' = collected ((s.known done).map Prod.fst ++ [f.name])) :
    s.After told collected (done ++ [(f.name, v)]) d' := by
  have hknown : s.known (done ++ [(f.name, v)]) = s.known done ++ [(f.name, v)] := by
    rw [known_append, known_singleton, if_pos ⟨f, hf, rfl⟩]
  refine ⟨?_, ?_, ?_⟩
  · intro g hg
    simp [hset g hg, h.isSet g hg]
  -- The field is not set yet, so no known member before has its name.
  · have hfresh : f.name ∉ (s.known done).map Prod.fst := by
      rw [name_mem_known hf, ← h.isSet f hf, hnew]
      exact Bool.false_ne_true
    rw [hknown, List.map_append]
    refine List.nodup_append.mpr ⟨h.nodup, List.nodup_singleton _, ?_⟩
    intro name hname name' hname' heq
    rw [List.map_singleton, List.mem_singleton] at hname'
    rw [heq, hname'] at hname
    exact hfresh hname
  · intro hall
    rw [hknown] at hall ⊢
    rw [List.map_append]
    exact hcollected (hall _ (by simp)) fun m hm => hall m (List.mem_append_left _ hm)

/-- A field that was set before is given twice. -/
theorem After.not_expected {done later : List (String × Json)} {f : Field σ} {v : Json} {d : σ}
    (h : s.After told collected done d) (hf : f ∈ s.fields) (hset : f.isSet d = true) :
    ¬ s.Expected told (done ++ (f.name, v) :: later) := by
  intro hexpected
  have hnodup := hexpected.nodup
  have hbefore := (name_mem_known hf done).mpr ((h.isSet f hf).mp hset)
  have hafter : f.name ∈ (s.known ((f.name, v) :: later)).map Prod.fst :=
    (name_mem_known hf _).mpr List.mem_cons_self
  rw [known_append, List.map_append] at hnodup
  exact (List.nodup_append.mp hnodup).2.2 _ hbefore _ hafter rfl

/-- The members before are expected with the others. -/
theorem Expected.of_append {done : List (String × Json)} {f : Field σ} {v : Json}
    {later : List (String × Json)} (hf : f ∈ s.fields)
    (h : s.Expected told (done ++ (f.name, v) :: later)) :
    (f.name, v) ∈ told ∧ ∀ m ∈ s.known done, m ∈ told := by
  have htold := h.told
  rw [known_append] at htold
  refine ⟨htold _ (List.mem_append_right _ ?_), fun m hm => htold m (List.mem_append_left _ hm)⟩
  exact List.mem_filter.mpr ⟨List.mem_cons_self, decide_eq_true ⟨f, hf, rfl⟩⟩

/-- Reading a field that is not set gives a draft with the field set. -/
theorem Lawful.gives_field (h : s.Lawful room told collected) {f : Field σ} (hf : f ∈ s.fields)
    {v : Json} {cs : List Char} (hwritten : Written v cs) {done later : List (String × Json)}
    {d : σ} (hafter : s.After told collected done d) (hnew : f.isSet d = false) (hends : Ends rest)
    (hc : c.skipSpaces.rest = cs ++ rest) :
    Gives (f.read room d c) rest (s.After told collected (done ++ [(f.name, v)]))
      (¬ s.Expected told (done ++ (f.name, v) :: later)) := by
  have hsets := h.sets f hf hwritten d c rest hends hc
  by_cases hright : (f.name, v) ∈ told ∧ ∀ m ∈ s.known done, m ∈ told
  · -- All is as expected so far, so the draft is what was collected.
    have hdraft := hafter.collected hright.2
    have hcollects :=
      h.collects f hf hwritten hright.1 ((s.known done).map Prod.fst) c rest hends hc
    rw [← hdraft] at hcollects
    refine (hsets.and hcollects).imp ?_ (fun hfail => hfail.2.elim)
    rintro d' ⟨hset, hd'⟩
    exact hafter.set hf hnew hset fun _ _ => hd'
  · refine hsets.imp ?_ fun _ hexpected => hright (hexpected.of_append hf)
    intro d' hset
    exact hafter.set hf hnew hset fun hv hdone => absurd ⟨hv, hdone⟩ hright

/-- Reading a member gives the draft after it. -/
theorem Lawful.gives_member (h : s.Lawful room told collected) {members : List WrittenMember}
    (hwritten : ∀ m ∈ members, Written m.value m.chars) {done later : List WrittenMember}
    {m : WrittenMember} (hall : members = done ++ m :: later) {d : σ} (hends : Ends rest)
    (hafter : s.After told collected (done.map WrittenMember.pair) d)
    (hc : c.rest = m.told ++ rest) :
    Gives (s.member room m.name d c) rest
      (s.After told collected ((done ++ [m]).map WrittenMember.pair))
      (¬ s.Expected told (members.map WrittenMember.pair)) := by
  have hm : Written m.value m.chars := hwritten m (by simp [hall])
  obtain ⟨c₁, hpast, hc₁⟩ := exists_pastColon hm hc
  have hpairs : members.map WrittenMember.pair
      = done.map WrittenMember.pair ++ m.pair :: later.map WrittenMember.pair := by simp [hall]
  rw [hpairs, List.map_append, List.map_singleton]
  unfold member
  -- A member is skipped, refused because its field is set, or read into its field.
  cases hfind : s.fields.find? fun f => f.name == m.name with
  | none =>
    have hunknown : ¬ s.Knows m.name := by
      rintro ⟨f, hf, hname⟩
      exact absurd hname (by simpa using List.find?_eq_none.mp hfind f hf)
    rw [hpast]
    show Gives (skipValue c₁ >>= fun c => .ok (d, c)) _ _ _
    refine (passes_skipValue hm hends hc₁).gives ?_
    intro c₂ hc₂
    exact ⟨hc₂, hafter.skipped hunknown⟩
  | some f =>
    have hf : f ∈ s.fields := List.mem_of_find?_eq_some hfind
    have hname : f.name = m.name := by simpa using List.find?_some hfind
    have hpair : m.pair = (f.name, m.value) := by rw [hname]; rfl
    rw [hpair]
    cases hset : f.isSet d with
    | true =>
      simp only [hset, if_true]
      exact hafter.not_expected hf hset
    | false =>
      simp only [hset, hpast]
      exact h.gives_field hf hm hafter hset hends hc₁

/-- Reading a record from its members gives the record of the draft after all of them. -/
theorem Lawful.gives_fromMembers (h : s.Lawful room told collected)
    {members : List WrittenMember} (space : Space)
    (hwritten : ∀ m ∈ members, Written m.value m.chars)
    (hc : c.rest = between space (members.map WrittenMember.text) ++ '\x7d' :: rest) :
    Gives (s.fromMembers room c) rest
      (fun a => ∃ d, s.After told collected (members.map WrittenMember.pair) d ∧ s.finish d = .ok a)
      (¬ (s.Expected told (members.map WrittenMember.pair) ∧ ∃ a, s.finish
        (collected ((s.known (members.map WrittenMember.pair)).map Prod.fst)) = .ok a)) := by
  have hmembers : Gives
      (Json.members readString (s.member room) (c.rest.length + 1) true s.blank c)
      ('\x7d' :: rest) (s.After told collected (members.map WrittenMember.pair))
      (¬ s.Expected told (members.map WrittenMember.pair)) := by
    refine gives_members (fun done => s.After told collected (done.map WrittenMember.pair)) space
      ?_ (length_members_lt space hc) h.after_nil hc
    intro done m later hall d c' more hafter hc' hends
    exact h.gives_member hwritten hall hends hafter hc'
  -- After the closing bracket, `finish` turns the draft into the record.
  refine Gives.enclosed exists_closeObject ((hmembers.imp (fun _ hd => hd) ?_).bind ?_)
  · intro hnot hexpected
    exact hnot hexpected.1
  · intro d c' hc' hafter
    cases hfinish : s.finish d with
    | ok a =>
      simp only [hfinish]
      exact ⟨hc', d, hafter, hfinish⟩
    | error name =>
      simp only [hfinish]
      rintro ⟨hexpected, a, ha⟩
      rw [← hafter.collected hexpected.told, hfinish] at ha
      cases ha

/-- Reading a record from a text that lists its members gives the record of the draft after all of
them. -/
theorem Lawful.gives_reader (h : s.Lawful room told collected) {members : List (String × Json)}
    {text : List Char} (hlists : Lists members text) (hc : c.rest = text) :
    ∃ after : Space, Gives (s.reader (room + 1) c) after.chars
      (fun a => ∃ d, s.After told collected members d ∧ s.finish d = .ok a)
      (¬ (s.Expected told members ∧
        ∃ a, s.finish (collected ((s.known members).map Prod.fst)) = .ok a)) := by
  cases hlists with
  | members before inside after hwritten =>
    refine ⟨after, ?_⟩
    have hopened := Cursor.rest_skipSpaces before hc (noSpace_cons (by decide))
    have hbracket : ('\x7b' = '[') = False := by decide
    unfold reader
    simp only [Cursor.peek?_of_rest hopened, Option.some.injEq, hbracket, if_true, if_false]
    exact h.gives_fromMembers inside hwritten (Cursor.rest_eat hopened)

/-- The expected members are read as the record that they make up. -/
theorem Lawful.readWhole_eq (h : s.Lawful room told collected) (hroom : room + 1 = depthLimit)
    {members : List (String × Json)} {text : String} (hlists : Lists members text.toList)
    (hexpected : s.Expected told members) {a : α}
    (hfinish : s.finish (collected ((s.known members).map Prod.fst)) = .ok a) :
    readWhole s.reader text = .ok a := by
  obtain ⟨after, hgives⟩ := h.gives_reader (c := .ofText text) hlists rfl
  rw [hroom] at hgives
  refine readWhole_of_gives after (hgives.imp ?_ fun hnot => hnot ⟨hexpected, a, hfinish⟩)
  rintro b ⟨d, hafter, hb⟩
  rw [hafter.collected hexpected.told, hfinish] at hb
  exact (Except.ok.inj hb).symm

/-- A record that is read was made up of its members. -/
theorem Lawful.after_of_readWhole (h : s.Lawful room told collected) (hroom : room + 1 = depthLimit)
    {members : List (String × Json)} {text : String} (hlists : Lists members text.toList) {a : α}
    (hread : readWhole s.reader text = .ok a) :
    ∃ d, s.After told collected members d ∧ s.finish d = .ok a := by
  obtain ⟨after, hgives⟩ := h.gives_reader (c := .ofText text) hlists rfl
  rw [hroom] at hgives
  unfold readWhole at hread
  cases hreader : s.reader depthLimit (.ofText text) with
  | error e =>
    rw [hreader] at hread
    cases hread
  | ok r =>
    rw [hreader] at hread hgives
    dsimp only at hread
    split at hread
    · cases hread
      exact hgives.2
    · cases hread

end Shape

end CameraFeed.Json
