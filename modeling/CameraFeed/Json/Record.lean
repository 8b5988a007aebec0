import CameraFeed.Json.Reader

/-! # Record — objects with known fields

  A record is written as an object, with its fields in any order among others that have no meaning,
  or as an array of its fields in their own order. No field is given twice, and only an optional
  one may be left out. -/

namespace CameraFeed.Json

/-- A field of a record whose values are collected in `σ`. -/
structure Field (σ : Type) where
  name : String
  /-- It may be left out. -/
  isOptional : Bool
  /-- It was read already. -/
  isSet : σ → Bool
  /-- Reads its value. -/
  read : Nat → σ → Reader σ

/-- A kind of record. -/
structure Shape (σ : Type) (α : Type) where
  /-- What messages call it. -/
  title : String
  /-- No field is read yet. -/
  blank : σ
  /-- The fields, in their own order. -/
  fields : List (Field σ)
  /-- The record, or the first field that is not there. -/
  finish : σ → Except String α

namespace Shape

variable {σ α : Type}

/-- The shape in words, for an array that is too short. -/
def lengthExpected (s : Shape σ α) : String :=
  s.title ++ " with " ++ Decimal.text s.fields.length ++ " elements"

/-- Reads a member of the object. -/
def member (s : Shape σ α) (room : Nat) (name : String) (draft : σ) : Reader σ := fun c =>
  match s.fields.find? (fun f => f.name == name) with
  | some f =>
    if f.isSet draft then .error (.unsettled (.duplicateField name) c)
    else do
      let c ← pastColon c
      f.read room draft c
  | none => do
    let c ← pastColon c
    let c ← skipValue c
    .ok (draft, c)

/-- Reads the members of the object up to its end. -/
def fromMembers (s : Shape σ α) (room : Nat) : Reader α := fun c =>
  enclosed closeObject do
    let (draft, c) ← members readString (s.member room) (c.rest.length + 1) true s.blank c
    match s.finish draft with
    | .ok a => .ok (a, c)
    | .error name => .error (.unsettled (.missingField name) c)

/-- Reads the fields that are left, from the items of the array. `index` counts the fields before
them. -/
def fromItems (s : Shape σ α) (room : Nat) : List (Field σ) → Nat → Bool → σ → Reader σ
  | [], _, _, draft, c => .ok (draft, c)
  | f :: fs, index, first, draft, c => do
    let (more, c) ← nextItem first c
    if more then
      let (draft, c) ← f.read room draft c
      s.fromItems room fs (index + 1) false draft c
    else if f.isOptional then s.fromItems room fs (index + 1) first draft c
    else .error (.unsettled (.wrongLength index s.lengthExpected) c)

/-- Reads the array up to its end. -/
def fromArray (s : Shape σ α) (room : Nat) : Reader α := fun c =>
  enclosed closeArray do
    let (draft, c) ← s.fromItems room s.fields 0 true s.blank c
    match s.finish draft with
    | .ok a => .ok (a, c)
    | .error name => .error (.unsettled (.missingField name) c)

/-- Reads a record. -/
def reader (s : Shape σ α) (room : Nat) : Reader α := fun c =>
  let c := c.skipSpaces
  if c.peek? = some '[' then opening room s.fromArray c
  else if c.peek? = some '\x7b' then opening room s.fromMembers c
  else mismatch s.title c

end Shape

end CameraFeed.Json
