import CameraFeed.EventStream.Frame

/-! # Chunks — frames do not depend on how a stream is cut into chunks

  A stream without its carriage returns is cut at each pair of line feeds, from the left and without
  overlap. `Cutting` defines the cuts without the decoder, with the place of the octet that
  completes each pair. The decoder sees one chunk at a time, and searches the octets that it keeps
  again. `frames_of_chunks` says that this makes no difference: each chunk gives the frames whose
  last octet lies in it, and the octets kept at the end are those after the last cut. -/

namespace CameraFeed.EventStream

/-! ### The cuts of a stream -/

/-- Two line feeds in a row. -/
def separator : List UInt8 := [lineFeed, lineFeed]

/-- A frame of a stream and where it ends. -/
structure Cut where
  /-- The octets before the separator, without carriage returns. -/
  frame : List UInt8
  /-- The place in the stream of the octet that completes the separator. -/
  last : Nat
  deriving DecidableEq, Repr

/-- `Cutting kept place octets cuts rest`: from a place on, the octets of a stream have these cuts
and the rest `rest`, where `kept` are the octets before the place that are not part of a cut yet. -/
inductive Cutting : List UInt8 → Nat → List UInt8 → List Cut → List UInt8 → Prop where
  /-- There is no separator. -/
  | none {kept : List UInt8} {place : Nat} {octets : List UInt8}
      (hnone : ¬ separator <:+: kept ++ withoutReturns octets) :
      Cutting kept place octets [] (kept ++ withoutReturns octets)
  /-- The line feed after `before` completes the first separator. -/
  | first {kept : List UInt8} {place : Nat} {before after frame : List UInt8} {cuts : List Cut}
      {rest : List UInt8} (hframe : kept ++ withoutReturns before = frame ++ [lineFeed])
      (hfirst : ¬ separator <:+: frame ++ [lineFeed])
      (hmore : Cutting [] (place + before.length + 1) after cuts rest) :
      Cutting kept place (before ++ lineFeed :: after)
        (⟨frame, place + before.length⟩ :: cuts) rest

@[simp] theorem withoutReturns_nil : withoutReturns [] = [] := rfl

@[simp] theorem withoutReturns_append (as bs : List UInt8) :
    withoutReturns (as ++ bs) = withoutReturns as ++ withoutReturns bs :=
  List.filter_append ..

@[simp] theorem withoutReturns_lineFeed (bs : List UInt8) :
    withoutReturns (lineFeed :: bs) = lineFeed :: withoutReturns bs :=
  List.filter_cons_of_pos (by decide)

/-! ### The first cut -/

theorem separator_not_infix_nil : ¬ separator <:+: [] := by decide

/-- A separator starts a list or is in what follows its first octet. -/
theorem separator_infix_cons_cons {a b : UInt8} {bs : List UInt8} :
    separator <:+: a :: b :: bs ↔ (a = lineFeed ∧ b = lineFeed) ∨ separator <:+: b :: bs := by
  rw [List.infix_cons_iff]
  simp [separator, List.cons_prefix_cons, eq_comm]

/-- Nothing is cut exactly if there is no separator. -/
theorem cut?_eq_none_iff {octets : List UInt8} :
    cut? octets = none ↔ ¬ separator <:+: octets := by
  induction octets using cut?.induct with
  | case1 a b bs hab => simp [cut?, hab, separator_infix_cons_cons]
  | case2 a b bs hab ih => simp [cut?, hab, separator_infix_cons_cons, ih]
  | case3 octets hshort =>
    rw [cut?.eq_2 octets hshort]
    simp only [true_iff]
    intro hsep
    obtain ⟨before, after, heq⟩ := hsep
    cases before with
    | nil => exact hshort _ _ _ heq.symm
    | cons a before =>
      -- There are octets before a separator that is further on.
      have hne : before ++ separator ≠ [] := by simp [separator]
      obtain ⟨b, bs, hbs⟩ := List.exists_cons_of_ne_nil hne
      rw [List.cons_append, hbs] at heq
      exact hshort _ _ _ heq.symm

/-- The octets before the first separator are cut off. -/
theorem cut?_append {frame : List UInt8} (h : ¬ separator <:+: frame ++ [lineFeed])
    (rest : List UInt8) : cut? (frame ++ lineFeed :: lineFeed :: rest) = some (frame, rest) := by
  induction frame with
  | nil => simp [cut?]
  | cons a frame ih =>
    -- The octet after `a` is the next one of the frame, or the first line feed.
    obtain ⟨b, bs, hbs⟩ : ∃ b bs, frame ++ [lineFeed] = b :: bs :=
      List.exists_cons_of_ne_nil (by simp)
    rw [List.cons_append, hbs, separator_infix_cons_cons, ← hbs, not_or] at h
    have hnext : frame ++ lineFeed :: lineFeed :: rest = b :: (bs ++ lineFeed :: rest) := by
      rw [← List.cons_append, ← hbs, List.append_assoc, List.singleton_append]
    rw [List.cons_append, hnext, cut?, if_neg h.1, ← hnext, ih h.2]
    rfl

/-- No separator comes before the one at which a cut is made. -/
theorem cut?_first {octets frame rest : List UInt8} (h : cut? octets = some (frame, rest)) :
    ¬ separator <:+: frame ++ [lineFeed] := by
  induction octets using cut?.induct generalizing frame with
  | case1 a b bs hab =>
    rw [cut?, if_pos hab] at h
    obtain ⟨rfl, rfl⟩ := Prod.mk.inj (Option.some.inj h)
    intro hsep
    exact absurd hsep.length_le (by decide)
  | case2 a b bs hab ih =>
    rw [cut?, if_neg hab] at h
    obtain ⟨⟨frame', rest'⟩, hcut, heq⟩ := Option.map_eq_some_iff.mp h
    obtain ⟨rfl, rfl⟩ := Prod.mk.inj heq
    have hbs := eq_append_of_cut? hcut
    have hfirst := ih hcut
    cases frame' with
    | nil =>
      obtain ⟨rfl, -⟩ := List.cons.inj hbs
      have ha : a ≠ lineFeed := fun ha => hab ⟨ha, rfl⟩
      simpa [separator_infix_cons_cons, ha] using hfirst
    | cons c frame' =>
      obtain ⟨rfl, -⟩ := List.cons.inj hbs
      simpa [separator_infix_cons_cons, hab] using hfirst
  | case3 octets hshort =>
    rw [cut?.eq_2 octets hshort] at h
    cases h

/-! ### The decoder and the cuts -/

/-- A stream that is over has no cuts. -/
theorem Cutting.nil {kept : List UInt8} (hkept : ¬ separator <:+: kept) (place : Nat) :
    Cutting kept place [] [] kept := by
  have h : Cutting kept place [] [] (kept ++ withoutReturns []) :=
    .none (by rwa [withoutReturns_nil, List.append_nil])
  rwa [withoutReturns_nil, List.append_nil] at h

/-- The rest after the cuts has no separator. -/
theorem Cutting.rest_whole {kept : List UInt8} {place : Nat} {octets : List UInt8}
    {cuts : List Cut} {rest : List UInt8} (h : Cutting kept place octets cuts rest) :
    ¬ separator <:+: rest := by
  induction h with
  | none hnone => exact hnone
  | first _ _ _ ih => exact ih

/-- The cuts take the separators away and nothing else. -/
theorem Cutting.octets_eq {kept : List UInt8} {place : Nat} {octets : List UInt8}
    {cuts : List Cut} {rest : List UInt8} (h : Cutting kept place octets cuts rest) :
    kept ++ withoutReturns octets = (cuts.flatMap fun c => c.frame ++ separator) ++ rest := by
  induction h with
  | none _ => rfl
  | first hframe _ _ ih =>
    rw [List.nil_append] at ih
    rw [withoutReturns_append, withoutReturns_lineFeed, ← List.append_assoc, hframe, ih]
    simp [separator]

/-- A cut ends where the stream is. -/
theorem Cutting.last_mem {kept : List UInt8} {place : Nat} {octets : List UInt8}
    {cuts : List Cut} {rest : List UInt8} (h : Cutting kept place octets cuts rest) :
    ∀ c ∈ cuts, place ≤ c.last ∧ c.last < place + octets.length := by
  induction h with
  | none _ => simp
  | first _ _ _ ih =>
    intro c hc
    rw [List.length_append, List.length_cons]
    rcases List.mem_cons.mp hc with rfl | hc
    · dsimp only
      omega
    · have := ih c hc
      omega

/-- The cuts of a stream in two parts are those of the first part, followed by those of the second
part after the rest of the first. -/
theorem Cutting.append {kept : List UInt8} {place : Nat} {xs ys : List UInt8}
    {cuts more : List Cut} {left rest : List UInt8} (h : Cutting kept place xs cuts left)
    (hmore : Cutting left (place + xs.length) ys more rest) :
    Cutting kept place (xs ++ ys) (cuts ++ more) rest := by
  induction h with
  -- The first part has no cuts, and the first one of the second part is the first one of both.
  | @none kept place octets _ =>
    rw [List.nil_append]
    cases hmore with
    | none hnone =>
      rw [List.append_assoc, ← withoutReturns_append] at hnone ⊢
      exact .none hnone
    | @first _ _ before after frame cuts _ hframe hfirst hmore =>
      rw [List.append_assoc, ← withoutReturns_append] at hframe
      rw [← List.append_assoc, Nat.add_assoc place, ← List.length_append]
      refine .first hframe hfirst ?_
      rwa [List.length_append, ← Nat.add_assoc place]
  | @first kept place before after frame cuts rest hframe hfirst _ ih =>
    rw [List.append_assoc, List.cons_append, List.cons_append]
    refine .first hframe hfirst (ih ?_)
    rwa [List.length_append, List.length_cons, show place + (before.length + (after.length + 1))
      = place + before.length + 1 + after.length from by omega] at hmore

/-- `drain` gives the frames of all cuts, and the rest. -/
theorem Cutting.drain_eq {kept : List UInt8} {place : Nat} {octets : List UInt8}
    {cuts : List Cut} {rest : List UInt8} (h : Cutting kept place octets cuts rest) :
    drain (kept ++ withoutReturns octets) = (cuts.map Cut.frame, rest) := by
  induction h with
  | none hnone =>
    exact drain_of_none (cut?_eq_none_iff.mpr hnone)
  | @first kept place before after frame cuts rest hframe hfirst _ ih =>
    have hcut : cut? (kept ++ withoutReturns (before ++ lineFeed :: after))
        = some (frame, withoutReturns after) := by
      rw [withoutReturns_append, withoutReturns_lineFeed, ← List.append_assoc, hframe,
        List.append_assoc, List.singleton_append]
      exact cut?_append hfirst _
    rw [drain_of_some hcut, ← List.nil_append (withoutReturns after), ih]
    rfl

/-- A separator that is not in what was kept is completed by an octet of the stream. -/
theorem exists_before_of_cut? {kept octets frame rest : List UInt8} (hkept : ¬ separator <:+: kept)
    (h : cut? (kept ++ withoutReturns octets) = some (frame, rest)) :
    ∃ before after, octets = before ++ lineFeed :: after ∧ withoutReturns after = rest ∧
      kept ++ withoutReturns before = frame ++ [lineFeed] := by
  have heq := eq_append_of_cut? h
  rw [← List.singleton_append (l := lineFeed :: rest), ← List.append_assoc] at heq
  obtain ⟨mid, hframe, hoctets⟩ :
      ∃ mid, frame ++ [lineFeed] = kept ++ mid ∧
        withoutReturns octets = mid ++ lineFeed :: rest := by
    rcases List.append_eq_append_iff.mp heq with hmid | ⟨mid, hlong, hrest⟩
    · exact hmid
    · cases mid with
      | nil => exact ⟨[], by simpa using hlong.symm, by simpa using hrest.symm⟩
      | cons b mid =>
        -- Both line feeds would be among what was kept.
        obtain ⟨rfl, -⟩ := List.cons.inj hrest
        refine absurd ⟨frame, mid, ?_⟩ hkept
        rw [hlong]
        simp [separator]
  obtain ⟨before, tail, rfl, rfl, htail⟩ := List.filter_eq_append_iff.mp hoctets
  obtain ⟨gap, after, rfl, hgap, -, rfl⟩ := List.filter_eq_cons_iff.mp htail
  -- Only carriage returns can stand between the octets kept so far and the line feed.
  have hnone : withoutReturns gap = [] := List.filter_eq_nil_iff.mpr hgap
  refine ⟨before ++ gap, after, by rw [List.append_assoc], rfl, ?_⟩
  rw [withoutReturns_append, hnone, List.append_nil]
  exact hframe.symm

/-- Every stream has cuts. -/
theorem exists_cutting {kept : List UInt8} (hkept : ¬ separator <:+: kept) (place : Nat)
    (octets : List UInt8) : ∃ cuts rest, Cutting kept place octets cuts rest := by
  -- By induction on what comes after the first separator.
  induction hn : octets.length using Nat.strongRecOn generalizing kept place octets with
  | ind n ih =>
    cases hcut : cut? (kept ++ withoutReturns octets) with
    | none => exact ⟨[], _, .none (cut?_eq_none_iff.mp hcut)⟩
    | some parts =>
      obtain ⟨frame, rest⟩ := parts
      obtain ⟨before, after, rfl, -, hframe⟩ := exists_before_of_cut? hkept hcut
      have hless : after.length < n := by
        rw [← hn, List.length_append, List.length_cons]
        omega
      obtain ⟨cuts, rest, hmore⟩ :=
        ih after.length hless separator_not_infix_nil (place + before.length + 1) after rfl
      exact ⟨_, rest, .first hframe (cut?_first hcut) hmore⟩

/-- A separator is in any octets that follow a frame and its first line feed by a second one. -/
theorem separator_infix_of_frame {kept before after frame : List UInt8}
    (hframe : kept ++ withoutReturns before = frame ++ [lineFeed]) :
    separator <:+: kept ++ withoutReturns (before ++ lineFeed :: after) := by
  refine ⟨frame, withoutReturns after, ?_⟩
  rw [withoutReturns_append, withoutReturns_lineFeed, ← List.append_assoc, hframe]
  simp [separator]

/-- The line feed that completes the first separator is unique. -/
theorem before_unique {kept before before' after after' frame frame' : List UInt8}
    (hframe : kept ++ withoutReturns before = frame ++ [lineFeed])
    (hfirst : ¬ separator <:+: frame ++ [lineFeed])
    (hframe' : kept ++ withoutReturns before' = frame' ++ [lineFeed])
    (hfirst' : ¬ separator <:+: frame' ++ [lineFeed])
    (h : before ++ lineFeed :: after = before' ++ lineFeed :: after') : before = before' := by
  -- If one came first, the octets up to the other one would have a separator.
  rcases List.append_eq_append_iff.mp h with ⟨mid, rfl, hmid⟩ | ⟨mid, rfl, hmid⟩
  · cases mid with
    | nil => simp
    | cons b mid =>
      obtain ⟨rfl, -⟩ := List.cons.inj hmid
      rw [← hframe'] at hfirst'
      exact absurd (separator_infix_of_frame hframe) hfirst'
  · cases mid with
    | nil => simp
    | cons b mid =>
      obtain ⟨rfl, -⟩ := List.cons.inj hmid
      rw [← hframe] at hfirst
      exact absurd (separator_infix_of_frame hframe') hfirst

/-- A stream has its cuts in one way only. -/
theorem Cutting.unique {kept : List UInt8} {place : Nat} {octets : List UInt8}
    {cuts cuts' : List Cut} {rest rest' : List UInt8} (h : Cutting kept place octets cuts rest)
    (h' : Cutting kept place octets cuts' rest') : cuts' = cuts ∧ rest' = rest := by
  induction h generalizing cuts' rest' with
  | none hnone =>
    cases h' with
    | none _ => exact ⟨rfl, rfl⟩
    | first hframe _ _ => exact absurd (separator_infix_of_frame hframe) hnone
  | @first kept place before after frame cuts rest hframe hfirst _ ih =>
    generalize hoctets : before ++ lineFeed :: after = octets at h'
    cases h' with
    | none hnone =>
      rw [← hoctets] at hnone
      exact absurd (separator_infix_of_frame hframe) hnone
    | first hframe' hfirst' hmore' =>
      obtain rfl := before_unique hframe hfirst hframe' hfirst' hoctets
      obtain ⟨-, rfl⟩ := List.cons.inj (List.append_cancel_left hoctets)
      obtain rfl := List.append_cancel_right (hframe.symm.trans hframe')
      obtain ⟨rfl, rfl⟩ := ih hmore'
      exact ⟨rfl, rfl⟩

/-- The cuts of a stream that comes in two parts fall into those of the parts. -/
theorem Cutting.split {kept : List UInt8} (hkept : ¬ separator <:+: kept) {place : Nat}
    {xs ys : List UInt8} {cuts : List Cut} {rest : List UInt8}
    (h : Cutting kept place (xs ++ ys) cuts rest) :
    ∃ now later left, cuts = now ++ later ∧ Cutting kept place xs now left ∧
      Cutting left (place + xs.length) ys later rest := by
  -- The parts have cuts of their own, and those of the whole are the same.
  obtain ⟨now, left, hnow⟩ := exists_cutting hkept place xs
  obtain ⟨later, rest', hlater⟩ := exists_cutting hnow.rest_whole (place + xs.length) ys
  obtain ⟨rfl, rfl⟩ := (hnow.append hlater).unique h
  exact ⟨now, later, left, rfl, hnow, hlater⟩

/-! ### Chunks -/

/-- The text of the frame of a cut: its octets decoded as UTF-8, with replacement characters for
those that are none. A frame of white space only has none. -/
def Cut.shown? (c : Cut) : Option String :=
  if Text.allBlank (Text.Utf8.decode c.frame) then none
  else some (String.ofList (Text.Utf8.decode c.frame))

/-- The frames that a decoder gives for each of some chunks, and what it keeps. -/
def Decoder.pushAll (d : Decoder) : List (List UInt8) → List (List String) × Decoder
  | [] => ([], d)
  | chunk :: chunks =>
    let (frames, d) := d.push chunk
    let (more, d) := d.pushAll chunks
    (frames :: more, d)

/-- The frames of cuts, for each of some chunks those whose last octet lies in it. The first chunk
starts at the place. -/
def shares (cuts : List Cut) : Nat → List (List UInt8) → List (List String)
  | _, [] => []
  | place, chunk :: chunks =>
    (cuts.filter fun c => place ≤ c.last ∧ c.last < place + chunk.length).filterMap Cut.shown? ::
      shares cuts (place + chunk.length) chunks

/-- A chunk gives the frames of its cuts, and the decoder keeps the rest. -/
theorem Cutting.push_eq {kept : List UInt8} {place : Nat} {chunk : List UInt8} {cuts : List Cut}
    {rest : List UInt8} (h : Cutting kept place chunk cuts rest) :
    Decoder.push ⟨kept⟩ chunk = (cuts.filterMap Cut.shown?, ⟨rest⟩) := by
  simp only [Decoder.push, h.drain_eq, List.filterMap_map]
  rfl

/-- Cuts that end before the first chunk have no share in any. -/
theorem shares_append {cuts more : List Cut} {place : Nat} (h : ∀ c ∈ cuts, c.last < place)
    (chunks : List (List UInt8)) :
    shares (cuts ++ more) place chunks = shares more place chunks := by
  induction chunks generalizing place with
  | nil => rfl
  | cons chunk chunks ih =>
    have hnone : (cuts.filter fun c => place ≤ c.last ∧ c.last < place + chunk.length) = [] := by
      refine List.filter_eq_nil_iff.mpr fun c hc => ?_
      have := h c hc
      simp only [decide_eq_true_eq]
      omega
    have hlater : ∀ c ∈ cuts, c.last < place + chunk.length :=
      fun c hc => Nat.lt_add_right _ (h c hc)
    rw [shares, shares, List.filter_append, hnone, List.nil_append, ih hlater]

/-- The first chunk has a share in its own cuts and no other. -/
theorem shares_cons {kept left rest chunk octets : List UInt8} {place : Nat} {now later : List Cut}
    (hnow : Cutting kept place chunk now left)
    (hlater : Cutting left (place + chunk.length) octets later rest) (chunks : List (List UInt8)) :
    shares (now ++ later) place (chunk :: chunks) =
      now.filterMap Cut.shown? :: shares later (place + chunk.length) chunks := by
  have hin : (now.filter fun c => place ≤ c.last ∧ c.last < place + chunk.length) = now :=
    List.filter_eq_self.mpr fun c hc => decide_eq_true (hnow.last_mem c hc)
  have hout : (later.filter fun c => place ≤ c.last ∧ c.last < place + chunk.length) = [] := by
    refine List.filter_eq_nil_iff.mpr fun c hc => ?_
    have := hlater.last_mem c hc
    simp only [decide_eq_true_eq]
    omega
  have hlast : ∀ c ∈ now, c.last < place + chunk.length := fun c hc => (hnow.last_mem c hc).2
  rw [shares, List.filter_append, hin, hout, List.append_nil, shares_append hlast]

/-- The chunks of a stream give the frames of its cuts, each one its share. -/
theorem Cutting.pushAll_eq {kept : List UInt8} (hkept : ¬ separator <:+: kept) {place : Nat}
    {chunks : List (List UInt8)} {cuts : List Cut} {rest : List UInt8}
    (h : Cutting kept place chunks.flatten cuts rest) :
    Decoder.pushAll ⟨kept⟩ chunks = (shares cuts place chunks, ⟨rest⟩) := by
  induction chunks generalizing kept place cuts with
  | nil =>
    obtain ⟨rfl, rfl⟩ := (Cutting.nil hkept place).unique h
    rfl
  | cons chunk chunks ih =>
    -- The decoder keeps what the cuts of the first chunk leave over.
    obtain ⟨now, later, left, rfl, hnow, hlater⟩ := h.split hkept
    rw [shares_cons hnow hlater]
    simp only [Decoder.pushAll, hnow.push_eq, ih hnow.rest_whole hlater]

/-- Every cut is in the share of one chunk. -/
theorem Cutting.flatten_shares {kept : List UInt8} (hkept : ¬ separator <:+: kept) {place : Nat}
    {chunks : List (List UInt8)} {cuts : List Cut} {rest : List UInt8}
    (h : Cutting kept place chunks.flatten cuts rest) :
    (shares cuts place chunks).flatten = cuts.filterMap Cut.shown? := by
  induction chunks generalizing kept place cuts with
  | nil =>
    obtain ⟨rfl, -⟩ := (Cutting.nil hkept place).unique h
    rfl
  | cons chunk chunks ih =>
    obtain ⟨now, later, left, rfl, hnow, hlater⟩ := h.split hkept
    rw [shares_cons hnow hlater, List.flatten_cons, ih hnow.rest_whole hlater,
      List.filterMap_append]

/-- A stream has its cuts in exactly one way. However it is cut into chunks, they give its frames,
each chunk the frames whose last octet lies in it, and the octets that the decoder keeps at the end
are those after the last cut, without a separator. -/
theorem frames_of_chunks (chunks : List (List UInt8)) :
    ∃ cuts rest, Cutting [] 0 chunks.flatten cuts rest ∧
      (∀ cuts' rest', Cutting [] 0 chunks.flatten cuts' rest' → cuts' = cuts ∧ rest' = rest) ∧
      withoutReturns chunks.flatten = (cuts.flatMap fun c => c.frame ++ separator) ++ rest ∧
      (Decoder.new.pushAll chunks).1.flatten = cuts.filterMap Cut.shown? ∧
      (Decoder.new.pushAll chunks).1 = shares cuts 0 chunks ∧
      (Decoder.new.pushAll chunks).2.buffer = rest ∧ ¬ separator <:+: rest := by
  obtain ⟨cuts, rest, h⟩ := exists_cutting separator_not_infix_nil 0 chunks.flatten
  have hpush : Decoder.new.pushAll chunks = (shares cuts 0 chunks, ⟨rest⟩) :=
    h.pushAll_eq separator_not_infix_nil
  refine ⟨cuts, rest, h, fun _ _ h' => h.unique h', h.octets_eq, ?_, ?_, ?_, h.rest_whole⟩
  · rw [hpush, h.flatten_shares separator_not_infix_nil]
  · rw [hpush]
  · rw [hpush]

/-- A stream in four chunks: the octets of one letter are in two of them, a carriage return and the
end of a chunk are between the line feeds after it, the next frame is blank, and the last octet ends
no frame. -/
def fourChunks : List (List UInt8) :=
  [[0xC3], [0xA9, 0x0D, 0x0A], [0x0D, 0x0A, 0x20, 0x0A, 0x0A, 0x62], [0x0A, 0x0A, 0x63]]

/-- The third chunk completes the first frame and the blank one, and the last chunk completes the
third one. -/
theorem frames_of_fourChunks :
    Cutting [] 0 fourChunks.flatten [⟨[0xC3, 0xA9], 5⟩, ⟨[0x20], 8⟩, ⟨[0x62], 11⟩] [0x63] ∧
      (Decoder.new.pushAll fourChunks).1 = [[], [], ["é"], ["b"]] ∧
      (Decoder.new.pushAll fourChunks).2.buffer = [0x63] := by
  have hthird : Cutting [] 9 ([0x62, 0x0A] ++ lineFeed :: [0x63]) [⟨[0x62], 11⟩] [0x63] :=
    .first rfl (by decide) (.none (by decide))
  have hsecond : Cutting [] 6 ([0x20, 0x0A] ++ lineFeed :: [0x62, 0x0A, 0x0A, 0x63])
      [⟨[0x20], 8⟩, ⟨[0x62], 11⟩] [0x63] := .first rfl (by decide) hthird
  have hfirst : Cutting [] 0 ([0xC3, 0xA9, 0x0D, 0x0A, 0x0D]
        ++ lineFeed :: [0x20, 0x0A, 0x0A, 0x62, 0x0A, 0x0A, 0x63])
      [⟨[0xC3, 0xA9], 5⟩, ⟨[0x20], 8⟩, ⟨[0x62], 11⟩] [0x63] := .first rfl (by decide) hsecond
  obtain ⟨cuts, rest, -, hunique, -, -, hshares, hbuffer, -⟩ := frames_of_chunks fourChunks
  obtain ⟨rfl, rfl⟩ := hunique _ _ hfirst
  exact ⟨hfirst, hshares.trans (by decide), hbuffer⟩

end CameraFeed.EventStream
