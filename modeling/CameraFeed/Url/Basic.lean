import CameraFeed.Decimal.Numeral
import CameraFeed.Query.Form

/-! # Url — addresses of servers

  An address has a scheme, perhaps an authority with a host, a path, and perhaps a query and a
  fragment. All of its parts are kept in their written form, so that the text of an address is its
  parts in a row. -/

namespace CameraFeed

/-- The part of an address that names a host. -/
structure Url.Authority where
  /-- Name and password, with the `@` after them if there are any. -/
  credentials : List Char
  host : List Char
  /-- A port other than the usual one of the scheme. -/
  port : Option Nat
  deriving DecidableEq, Repr

/-- The path of an address. -/
inductive Url.Path where
  /-- A text without structure. -/
  | opaqueText (cs : List Char)
  /-- Segments, with a slash before each. -/
  | segments (parts : List (List Char))
  deriving DecidableEq, Repr

/-- An address. -/
structure Url where
  scheme : List Char
  authority : Option Url.Authority
  path : Url.Path
  query : Option (List Char)
  fragment : Option (List Char)
  deriving DecidableEq, Repr

namespace Url

/-! ### As text -/

/-- The authority after its two slashes. -/
def Authority.written (a : Authority) : List Char :=
  a.credentials ++ a.host ++ (match a.port with
    | none => []
    | some port => ':' :: Decimal.digits port)

/-- The path. -/
def Path.written : Path → List Char
  | opaqueText cs => cs
  | segments parts => parts.flatMap ('/' :: ·)

/-- The authority and the path. A path that starts with two slashes is kept apart from an authority
by a dot. -/
def hierarchy (u : Url) : List Char :=
  match u.authority with
  | some a => '/' :: '/' :: (a.written ++ u.path.written)
  | none =>
    match u.path with
    | .segments ([] :: _ :: _) => '/' :: '.' :: u.path.written
    | path => path.written

/-- An optional part after its mark. -/
def marked (mark : Char) : Option (List Char) → List Char
  | none => []
  | some cs => mark :: cs

/-- An address in full. -/
def written (u : Url) : List Char :=
  u.scheme ++ ':' :: (u.hierarchy ++ marked '?' u.query ++ marked '#' u.fragment)

/-- An address as text. -/
def text (u : Url) : String := String.ofList u.written

/-- The address without a name and a password. -/
def anonymous (u : Url) : Url :=
  { u with authority := u.authority.map fun a => { a with credentials := [] } }

/-! ### Extending the query -/

/-- The query with pairs at its end. -/
def extended (query : Option (List Char)) (pairs : List Query.Pair) : List Char :=
  match query with
  | none | some [] => Query.written pairs
  | some cs => cs ++ '&' :: Query.written pairs

/-- The address with pairs at the end of its query. Without pairs it stays as it is. -/
def withPairs (u : Url) (pairs : List Query.Pair) : Url :=
  if pairs.isEmpty then u else { u with query := some (extended u.query pairs) }

end Url

end CameraFeed
