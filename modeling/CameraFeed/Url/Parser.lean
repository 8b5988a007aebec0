import CameraFeed.Url.Basic
import CameraFeed.Url.Host
import CameraFeed.Url.Segments

/-! # Parser — addresses from text

  Reads an address that stands for itself: one with a scheme. Of the web schemes the slashes before
  the host may be any number of slashes and backslashes; their path is never empty, nor is that of a
  file. White space at the ends has no meaning, nor have tabs and line ends anywhere. -/

namespace CameraFeed.Url

/-! ### Schemes -/

/-- What the rest of an address looks like. -/
inductive Kind where
  /-- A web address, with the usual port of its scheme. -/
  | web (port : Nat)
  | file
  | other
  deriving DecidableEq, Repr

/-- The kind of a scheme. -/
def kindOf (scheme : List Char) : Kind :=
  match String.ofList scheme with
  | "http" | "ws" => .web 80
  | "https" | "wss" => .web 443
  | "ftp" => .web 21
  | "file" => .file
  | _ => .other

/-- The kind has a structure of its own, in which a backslash is a slash. -/
def Kind.isSpecial : Kind → Bool
  | other => false
  | _ => true

/-- The character is a letter of ASCII. -/
def isLetter (c : Char) : Bool := c.isAlpha

/-- The character may be in a scheme. -/
def isSchemeChar (c : Char) : Bool := c.isAlphanum || c == '+' || c == '-' || c == '.'

/-- The scheme in lower case and what follows its colon. -/
def scheme? (cs : List Char) : Option (List Char × List Char) :=
  let name := cs.takeWhile isSchemeChar
  match cs.drop name.length with
  | ':' :: rest => if name.head?.any isLetter then some (name.map Char.toLower, rest) else none
  | _ => none

/-! ### Characters that are escaped -/

/-- In a query. -/
def inQuery (kind : Kind) (c : Char) : Bool :=
  isControl c || " \"#<>".toList.contains c || (kind.isSpecial && c == '\'')

/-- In a name or a password. -/
def inCredentials (c : Char) : Bool := inPath c || "/:;=@[\\]^|".toList.contains c

/-! ### Authority -/

/-- The character ends the authority. -/
def endsAuthority (kind : Kind) (c : Char) : Bool :=
  c == '/' || c == '?' || c == '#' || (kind.isSpecial && c == '\\')

/-- The text before the last `@` and the text after it, if there is one. -/
def cutAtLast (cs : List Char) : Option (List Char × List Char) :=
  let after := (cs.reverse.takeWhile (· != '@')).reverse
  if after.length = cs.length then none
  else some (cs.take (cs.length - after.length - 1), after)

/-- Name and password in their written form, with the `@` after them. -/
def credentials (cs : List Char) : List Char :=
  let name := cs.takeWhile (· != ':')
  let password := (cs.drop name.length).drop 1
  if name.isEmpty ∧ password.isEmpty then []
  else
    let secret :=
      if password.isEmpty then [] else ':' :: Query.percentEncoded inCredentials password
    Query.percentEncoded inCredentials name ++ secret ++ ['@']

/-- The host and what follows it. A colon between square brackets belongs to the host. -/
def cutHost : Bool → List Char → List Char × List Char
  | _, [] => ([], [])
  | inside, c :: cs =>
    if c = ':' ∧ ¬ inside then ([], c :: cs)
    else
      let (host, rest) := cutHost (c = '[' ∨ (inside ∧ c ≠ ']')) cs
      (c :: host, rest)

/-- The port after its colon, and what follows it. Without digits it is the usual one; a backslash
ends it. -/
def portOf (kind : Kind) (cs : List Char) : Except Fault (Option Nat × List Char) :=
  let digits := cs.takeWhile Decimal.isDigit
  let rest := cs.drop digits.length
  if ¬ rest.isEmpty ∧ rest.head? ≠ some '\\' then .error .invalidPort
  else if digits.isEmpty then .ok (none, rest)
  else
    match Decimal.read? 65536 digits with
    | none => .error .invalidPort
    | some n => .ok (if kind = .web n then none else some n, rest)

/-- The host and the port after the credentials, and what follows them. -/
def hostAndPort (kind : Kind) (cs : List Char) :
    Except Fault (List Char × Option Nat × List Char) := do
  let (name, rest) := cutHost false cs
  if kind.isSpecial ∧ name.isEmpty then .error .emptyHost
  else
    let host ← if kind.isSpecial then webHost name else otherHost name
    match rest with
    | ':' :: digits =>
      if host.isEmpty then .error .emptyHost
      else
        let (port, rest) ← portOf kind digits
        .ok (host, port, rest)
    | _ => .ok (host, none, [])

/-- The authority after two slashes, and the text behind its port. An `@` alone is an empty
authority if nothing follows it; `followed` says whether something does. -/
def authorityOf (kind : Kind) (followed : Bool) (cs : List Char) :
    Except Fault (Authority × List Char) :=
  match cutAtLast cs with
  | none => do
    let (host, port, rest) ← hostAndPort kind cs
    .ok (⟨[], host, port⟩, rest)
  | some (before, after) =>
    -- A colon without a name and a password around it leaves no trace.
    let named := credentials before
    if before.isEmpty ∧ after.isEmpty ∧ followed then .error .emptyHost
    else do
      let (host, port, rest) ← hostAndPort kind after
      if host.isEmpty ∧ ¬ named.isEmpty then .error .emptyHost
      else .ok (⟨named, host, port⟩, rest)

/-! ### Path -/

/-- The path after an authority. That of a special scheme has a slash at least. -/
def pathAfter (kind : Kind) (cs : List Char) : Path :=
  match cs with
  | [] => .segments (if kind.isSpecial then [[]] else [])
  | c :: rest =>
    let afterSlash := if c = '/' ∨ kind.isSpecial then rest else c :: rest
    .segments (segmentsOf kind.isSpecial afterSlash)

/-! ### Files -/

/-- The place of a file on a host. A drive is not on any host. -/
def fileAt (host : List Char) (segments : List (List Char)) : Authority × Path :=
  (⟨[], if segments.head?.any isDrive then [] else host, none⟩,
    .segments (withoutEmptyStart segments))

/-- The place of a file after two slashes. A drive in the place of the host belongs to the path. -/
def fileAfterSlashes (cs : List Char) : Except Fault (Authority × Path) :=
  let (name, path) := cs.span fun c => !endsAuthority .file c
  if name.isEmpty ∨ isDrive name then
    .ok (fileAt [] (fileSegmentsOf cs))
  else do
    let host ← webHost name
    -- The files of this machine are on no host.
    let host := if host = "localhost".toList then [] else host
    .ok (fileAt host (fileSegmentsOf (path.drop 1)))

/-! ### The whole -/

/-- A slash, or a backslash. -/
def isSlash (c : Char) : Bool := c == '/' || c == '\\'

/-- The place of a file after its scheme. -/
def fileOf (cs : List Char) : Except Fault (Authority × Path) :=
  match cs with
  | x :: y :: rest =>
    if isSlash x ∧ isSlash y then fileAfterSlashes rest
    else .ok (fileAt [] (fileSegmentsOf (if isSlash x then y :: rest else cs)))
  | cs => .ok (fileAt [] (fileSegmentsOf (cs.dropWhile isSlash)))

/-- The authority, if there is one, and the path. `followed` says whether a query or a fragment
comes after them. -/
def hierarchyOf (kind : Kind) (followed : Bool) (cs : List Char) :
    Except Fault (Option Authority × Path) :=
  let withAuthority (cs : List Char) : Except Fault (Option Authority × Path) := do
    let (a, path) := cs.span fun c => !endsAuthority kind c
    let (a, rest) ← authorityOf kind (followed || !path.isEmpty) a
    .ok (some a, pathAfter kind (rest ++ path))
  match kind with
  | .web _ => withAuthority (cs.dropWhile isSlash)
  | .file => do
    let (a, path) ← fileOf cs
    .ok (some a, path)
  | .other =>
    match cs with
    | '/' :: '/' :: rest => withAuthority rest
    | '/' :: rest => .ok (none, .segments (segmentsOf false rest))
    | cs => .ok (none, .opaqueText (Query.percentEncoded isControl cs))

/-- The text before a mark, and the text after it if there is one. -/
def cutMark (mark : Char) (cs : List Char) : List Char × Option (List Char) :=
  match cs.span (· != mark) with
  | (before, []) => (before, none)
  | (before, _ :: after) => (before, some after)

/-- The text without what has no meaning in an address. -/
def cleaned (s : String) : List Char :=
  let edge (c : Char) := decide (c.toNat ≤ 0x20)
  let cs := ((s.toList.dropWhile edge).reverse.dropWhile edge).reverse
  cs.filter fun c => c != '\t' && c != '\n' && c != '\r'

/-- The address of a text. -/
def read (s : String) : Except Fault Url :=
  match scheme? (cleaned s) with
  | none => .error .relative
  | some (scheme, rest) => do
    let kind := kindOf scheme
    let (rest, fragment) := cutMark '#' rest
    let (rest, query) := cutMark '?' rest
    let (authority, path) ← hierarchyOf kind (query.isSome || fragment.isSome) rest
    .ok ⟨scheme, authority, path, query.map (Query.percentEncoded (inQuery kind)),
      fragment.map (Query.percentEncoded inFragment)⟩

end CameraFeed.Url
