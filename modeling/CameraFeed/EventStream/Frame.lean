import CameraFeed.Text.Blank
import CameraFeed.Text.Utf8

/-! # Frame — cutting an event stream at its blank lines

  An event stream is a sequence of octets in chunks of any size. Carriage returns are removed. Two
  line feeds in a row end a frame: the octets since the last frame are decoded as UTF-8, and a frame
  of white space only is dropped. The octets after the last complete frame stay in the buffer of the
  `Decoder` and are searched again together with the next chunk. -/

namespace CameraFeed.EventStream

/-- The line feed as an octet. -/
def lineFeed : UInt8 := 0x0A

/-- The carriage return as an octet. -/
def carriageReturn : UInt8 := 0x0D

/-- Octets without their carriage returns. -/
def withoutReturns (octets : List UInt8) : List UInt8 := octets.filter (· ≠ carriageReturn)

/-! ### Cutting -/

/-- The octets before the first two line feeds in a row, and those after them. -/
def cut? : List UInt8 → Option (List UInt8 × List UInt8)
  | a :: b :: rest =>
    if a = lineFeed ∧ b = lineFeed then some ([], rest)
    else (cut? (b :: rest)).map fun (frame, rest) => (a :: frame, rest)
  | _ => none

/-- A cut takes two line feeds away and nothing else. -/
theorem eq_append_of_cut? {octets frame rest : List UInt8}
    (h : cut? octets = some (frame, rest)) : octets = frame ++ lineFeed :: lineFeed :: rest := by
  induction octets using cut?.induct generalizing frame with
  | case1 a b bs hab =>
    rw [cut?, if_pos hab] at h
    obtain ⟨rfl, rfl⟩ := Prod.mk.inj (Option.some.inj h)
    rw [hab.1, hab.2, List.nil_append]
  | case2 a b bs hab ih =>
    rw [cut?, if_neg hab] at h
    obtain ⟨⟨frame', rest'⟩, hcut, heq⟩ := Option.map_eq_some_iff.mp h
    obtain ⟨rfl, rfl⟩ := Prod.mk.inj heq
    rw [List.cons_append, ← ih hcut]
  | case3 octets hshort =>
    rw [cut?.eq_2 octets hshort] at h
    cases h

/-- The octets of all complete frames, in order, and those after the last one. -/
def drain (octets : List UInt8) : List (List UInt8) × List UInt8 :=
  match _h : cut? octets with
  | none => ([], octets)
  | some (frame, rest) =>
    let (frames, rest) := drain rest
    (frame :: frames, rest)
termination_by octets.length
decreasing_by
  rw [eq_append_of_cut? _h]
  simp only [List.length_append, List.length_cons]
  omega

theorem drain_of_none {octets : List UInt8} (h : cut? octets = none) :
    drain octets = ([], octets) := by
  rw [drain]
  split
  · rfl
  · next hcut => rw [h] at hcut; cases hcut

theorem drain_of_some {octets frame rest : List UInt8} (h : cut? octets = some (frame, rest)) :
    drain octets = (frame :: (drain rest).1, (drain rest).2) := by
  rw [drain]
  split
  · next hcut => rw [h] at hcut; cases hcut
  · next hcut =>
    obtain ⟨rfl, rfl⟩ := Prod.mk.inj (Option.some.inj (h.symm.trans hcut))
    rfl

/-! ### Decoding -/

/-- The octets of a frame that is not complete yet. -/
structure Decoder where
  /-- The octets since the last complete frame, without carriage returns. -/
  buffer : List UInt8
  deriving DecidableEq, Repr

namespace Decoder

/-- The decoder before the first chunk. -/
def new : Decoder := ⟨[]⟩

/-- The text of a frame, unless it is blank. -/
def shown? (frame : List UInt8) : Option String :=
  let cs := Text.Utf8.decode frame
  if Text.allBlank cs then none else some (String.ofList cs)

/-- The frames that a chunk completes, in order. -/
def push (d : Decoder) (chunk : List UInt8) : List String × Decoder :=
  let (frames, rest) := drain (d.buffer ++ withoutReturns chunk)
  (frames.filterMap shown?, ⟨rest⟩)

end Decoder

end CameraFeed.EventStream
