import CameraFeed.Query.Percent
import CameraFeed.Text.Pieces

/-! # Segments — the path of an address, step by step

  A path is read segment by segment. One of a single dot stands for where it is, one of two dots
  takes back the segment before it, unless that is the letter of a drive. Of a file the first
  segment may be a drive with a bar for its colon, and empty segments at the beginning have no
  meaning. Segments that were read are given last to first. -/

namespace CameraFeed.Url

/-! ### Characters -/

/-- A control character of ASCII, or anything beyond ASCII. -/
def isControl (c : Char) : Bool := c.toNat < 0x20 || 0x7E < c.toNat

/-- The character is escaped in a fragment. -/
def inFragment (c : Char) : Bool := isControl c || " \"<>\x60".toList.contains c

/-- The character is escaped in a path. -/
def inPath (c : Char) : Bool := inFragment c || "#?\x7b\x7d".toList.contains c

/-! ### Kinds of segments -/

/-- The segment stands for where it is. -/
def isSingleDot (segment : List Char) : Bool :=
  let s := segment.map Char.toLower
  s == ['.'] || s == ['%', '2', 'e']

/-- The segment takes back the one before it. -/
def isDoubleDot (segment : List Char) : Bool :=
  let s := segment.map Char.toLower
  ["..", ".%2e", "%2e.", "%2e%2e"].contains (String.ofList s)

/-- The segment is the letter of a drive with a colon or a bar. -/
def isDrive : List Char → Bool
  | [letter, mark] => letter.isAlpha && (mark == ':' || mark == '|')
  | _ => false

/-! ### Reading -/

/-- Takes back the last segment. A drive stays, even with a backslash and more after it, which is no
end of a segment in every scheme. -/
def takeBack : List (List Char) → List (List Char)
  | [] => []
  | segment :: before =>
    if isDrive (segment.takeWhile (· != '\\')) then segment :: before else before

/-- Adds a segment. At the beginning of the path of a file a drive is written with a colon. -/
def addSegment (file : Bool) (before : List (List Char)) (segment : List Char) :
    List (List Char) :=
  if file ∧ before.isEmpty ∧ isDrive segment then [segment.take 1 ++ [':']]
  else segment :: before

/-- Segments after those in `before`, with the dots resolved. A path that ends in dots ends in a
slash. -/
def resolved (file : Bool) (before : List (List Char)) : List (List Char) → List (List Char)
  | [] => before.reverse
  | segment :: rest =>
    if isDoubleDot segment then
      -- What is taken back leaves a slash behind at the end of the path.
      let before := takeBack before
      resolved file (if rest.isEmpty then [] :: before else before) rest
    else if isSingleDot segment then
      resolved file (if rest.isEmpty then [] :: before else before) rest
    else resolved file (addSegment file before segment) rest

/-- The segments of a text, those of a special scheme with backslashes for slashes too. -/
def cutSegments (special : Bool) (cs : List Char) : List (List Char) :=
  (Text.pieces (fun c => c == '/' || (special && c == '\\')) cs).map
    (Query.percentEncoded inPath)

/-- The segments after the first slash of a path. -/
def segmentsOf (special : Bool) (cs : List Char) : List (List Char) :=
  resolved false [] (cutSegments special cs)

/-- The segments after the first slash of the path of a file, before empty ones are left out. -/
def fileSegmentsOf (cs : List Char) : List (List Char) := resolved true [] (cutSegments true cs)

/-- The segments without empty ones at the beginning. A path has one segment at least. -/
def withoutEmptyStart (segments : List (List Char)) : List (List Char) :=
  match segments.dropWhile List.isEmpty with
  | [] => [[]]
  | rest => rest

end CameraFeed.Url
