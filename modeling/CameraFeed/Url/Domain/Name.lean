import CameraFeed.Text.Normal
import CameraFeed.Url.Domain.Direction
import CameraFeed.Url.Domain.Joining
import CameraFeed.Url.Domain.Mapping
import CameraFeed.Url.Punycode

/-! # Name — the names of domains in any script

  A name is a row of labels with dots between them. It is brought into its plain form first: every
  character is replaced by what it stands for, and the text is normalised. In that form the labels
  are checked, and those beyond ASCII are rewritten in ASCII, with a mark in front. A label that
  comes with the mark already has to be one that is written so. -/

namespace CameraFeed.Url.Domain

/-- The character is not one of ASCII. -/
def isBeyondAscii (c : Char) : Bool := 0x7F < c.toNat

/-- What stands in front of a label that was rewritten in ASCII. -/
def rewritingMark : List Char := "xn--".toList

/-- The number of characters that a label beyond ASCII may have. -/
def longestLabel : Nat := 1000

/-- The number of characters that a label rewritten in ASCII may have after its mark. -/
def longestRewritten : Nat := 2000

/-- The plain form of a name, if all of its characters are allowed. -/
def plain? (cs : List Char) : Option (List Char) := (mapped? cs).map Text.normal

/-- The text that a label rewritten in ASCII stands for, without its mark. It is in its plain form
and could not have been written as it is. -/
def rewritten? (cs : List Char) : Option (List Char) := do
  let label ← if longestRewritten < cs.length then none else Punycode.read? cs
  if label.any isBeyondAscii ∧ label.all isSettled ∧ Text.normal label = label then some label
  else none

/-- The text of a label in its plain form. -/
def labelText? (label : List Char) : Option (List Char) :=
  if rewritingMark.isPrefixOf label then
    if label.any isBeyondAscii then none else rewritten? (label.drop rewritingMark.length)
  else some label

/-- The label does not start with a mark and has no joiners without need. -/
def isWellFormed (label : List Char) : Bool :=
  !(label.head?.any Text.isMark) && joinersFit [] label

/-- A label in ASCII. -/
def asciiLabel? (label : List Char) : Option (List Char) :=
  if label.any isBeyondAscii then
    if longestLabel < label.length then none
    else some (rewritingMark ++ Punycode.written label)
  else some label

/-- A name in its plain form, rewritten in ASCII. -/
def ascii? (name : List Char) : Option (List Char) := do
  -- Labels that come rewritten are checked by what they stand for.
  let labels ← (Text.pieces (· == '.') name).mapM labelText?
  if labels.all isWellFormed ∧ agreeInDirection labels then
    let labels ← labels.mapM asciiLabel?
    some (List.intercalate ['.'] labels)
  else none

end CameraFeed.Url.Domain
