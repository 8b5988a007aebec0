import CameraFeed.Decimal.Numeral
import CameraFeed.Json.Basic
import CameraFeed.Text.Blank
import Mathlib.Algebra.Group.Int.Defs

/-! # Written — the texts of a value

  `Written v cs` says that `cs` is a text of the value `v`. It may have white space between its
  tokens, its strings may be spelled with escapes, and the members of its objects may be listed in
  any order. A floating-point number is any text of a number: the number that such a text denotes is
  left open here.

  `Exact room v` says that `v` has no floating-point numbers, and that its brackets are at most
  `room` deep. -/

namespace CameraFeed.Json

open Text (joinWith)

/-! ### White space -/

/-- White space between two tokens. -/
structure Space where
  chars : List Char
  isSpace : ∀ c ∈ chars, c ∈ [' ', '\n', '\t', '\r']

/-- No white space. -/
def Space.none : Space := ⟨[], nofun⟩

/-! ### Strings -/

/-- A digit of base 16, in either case. -/
def IsHex (n : Nat) (c : Char) : Prop :=
  n < 16 ∧ (c = Nat.digitChar n ∨ c = (Nat.digitChar n).toUpper)

/-- The four digits of a number of 16 bits. -/
inductive IsUnit (n : Nat) : List Char → Prop where
  | digits {a b c d : Char} (ha : IsHex (n / 4096) a) (hb : IsHex (n / 256 % 16) b)
      (hc : IsHex (n / 16 % 16) c) (hd : IsHex (n % 16) d) : IsUnit n [a, b, c, d]

/-- The letters that may follow a backslash, and the characters that they denote. -/
def shortEscapes : List (Char × Char) :=
  [('"', '"'), ('\\', '\\'), ('/', '/'), ('b', '\x08'), ('f', '\x0c'), ('n', '\n'), ('r', '\r'),
    ('t', '\t')]

/-- `IsLetter c cs`: inside a string, the character `c` is written as `cs`. -/
inductive IsLetter (c : Char) : List Char → Prop where
  | plain (hquote : c ≠ '"') (hslash : c ≠ '\\') (hcontrol : 0x20 ≤ c.toNat) : IsLetter c [c]
  | short {letter : Char} (h : (letter, c) ∈ shortEscapes) : IsLetter c ['\\', letter]
  | unit {ds : List Char} (h : IsUnit c.toNat ds) : IsLetter c ('\\' :: 'u' :: ds)
  /-- A character outside the basic plane, as two surrogates. -/
  | pair {ds ds' : List Char} (hc : 0x10000 ≤ c.toNat)
      (h : IsUnit (0xD800 + (c.toNat - 0x10000) / 0x400) ds)
      (h' : IsUnit (0xDC00 + (c.toNat - 0x10000) % 0x400) ds') :
      IsLetter c ('\\' :: 'u' :: (ds ++ '\\' :: 'u' :: ds'))

/-- The characters of a string and how they are written. -/
inductive Spelled : List Char → List Char → Prop where
  | nil : Spelled [] []
  | cons {c : Char} {letter cs text : List Char} (hletter : IsLetter c letter)
      (h : Spelled cs text) : Spelled (c :: cs) (letter ++ text)

/-- A string between quotation marks. -/
inductive IsText (s : String) : List Char → Prop where
  | quoted {text : List Char} (h : Spelled s.toList text) : IsText s ('"' :: (text ++ ['"']))

/-! ### Numbers -/

/-- One or more digits. -/
structure IsDigits (ds : List Char) : Prop where
  ne_nil : ds ≠ []
  isDigit : ∀ d ∈ ds, d.isDigit = true

/-- The digits before the point. No other digit follows a zero in front. -/
inductive IsWhole : List Char → Prop where
  | zero : IsWhole ['0']
  | digits {d : Char} {ds : List Char} (hzero : d ≠ '0') (h : IsDigits (d :: ds)) :
      IsWhole (d :: ds)

/-- The point with the digits behind it, or nothing. -/
inductive IsPoint : List Char → Prop where
  | none : IsPoint []
  | digits {ds : List Char} (h : IsDigits ds) : IsPoint ('.' :: ds)

/-- The exponent with its mark, or nothing. -/
inductive IsExponent : List Char → Prop where
  | none : IsExponent []
  | digits {mark : Char} {sign ds : List Char} (hmark : mark = 'e' ∨ mark = 'E')
      (hsign : sign ∈ [[], ['+'], ['-']]) (h : IsDigits ds) : IsExponent (mark :: (sign ++ ds))

/-- A number. -/
inductive IsNumber : List Char → Prop where
  | parts {sign whole point exponent : List Char} (hsign : sign ∈ [[], ['-']])
      (hwhole : IsWhole whole) (hpoint : IsPoint point) (hexponent : IsExponent exponent) :
      IsNumber (sign ++ (whole ++ (point ++ exponent)))

/-! ### Values -/

/-- An item of an array with the white space around it. -/
structure WrittenItem where
  before : Space
  value : Json
  chars : List Char
  after : Space

/-- An item as it is written. -/
def WrittenItem.text (i : WrittenItem) : List Char := i.before.chars ++ (i.chars ++ i.after.chars)

/-- A member of an object with the white space around it and around its colon. -/
structure WrittenMember where
  before : Space
  name : String
  nameChars : List Char
  named : IsText name nameChars
  beforeColon : Space
  afterColon : Space
  value : Json
  chars : List Char
  after : Space

namespace WrittenMember

/-- The name and the value of the member. -/
def pair (m : WrittenMember) : String × Json := (m.name, m.value)

/-- The colon and the value. -/
def told (m : WrittenMember) : List Char :=
  m.beforeColon.chars ++ ':' :: (m.afterColon.chars ++ m.chars)

/-- A member as it is written. -/
def text (m : WrittenMember) : List Char :=
  m.before.chars ++ (m.nameChars ++ (m.told ++ m.after.chars))

end WrittenMember

/-- The text between two brackets: parts with commas between them, or only white space. -/
def between (s : Space) : List (List Char) → List Char
  | [] => s.chars
  | part :: parts => joinWith [','] (part :: parts)

/-- `Written v cs`: the value `v` is written as `cs`. -/
inductive Written : Json → List Char → Prop where
  | null : Written .null "null".toList
  | yes : Written (.boolean true) "true".toList
  | no : Written (.boolean false) "false".toList
  | integer (n : Int) : Written (.number (.integer n)) (Decimal.signedDigits n)
  | float {x : Binary64} {cs : List Char} (h : IsNumber cs) : Written (.number (.float x)) cs
  | text {s : String} {cs : List Char} (h : IsText s cs) : Written (.text s) cs
  | array {items : List WrittenItem} (s : Space) (h : ∀ i ∈ items, Written i.value i.chars) :
      Written (.array (items.map WrittenItem.value))
        ('[' :: (between s (items.map WrittenItem.text) ++ [']']))
  /-- The members may be listed in any order. -/
  | object {pairs : List (String × Json)} {members : List WrittenMember} (s : Space)
      (hperm : (members.map WrittenMember.pair).Perm pairs)
      (h : ∀ m ∈ members, Written m.value m.chars) :
      Written (.object pairs)
        ('\x7b' :: (between s (members.map WrittenMember.text) ++ ['\x7d']))

/-- A whole text that lists the members of an object in the given order. -/
inductive Lists : List (String × Json) → List Char → Prop where
  | members {members : List WrittenMember} (before inside after : Space)
      (h : ∀ m ∈ members, Written m.value m.chars) :
      Lists (members.map WrittenMember.pair) (before.chars ++ ('\x7b' ::
        (between inside (members.map WrittenMember.text) ++ '\x7d' :: after.chars)))

/-! ### Exact values -/

/-- `Exact room v`: no floating-point numbers, brackets at most `room` deep, whole numbers of 64
bits, and the members of objects in the order of their names, each name once. -/
inductive Exact : Nat → Json → Prop where
  | null {room : Nat} : Exact room .null
  | boolean {room : Nat} (b : Bool) : Exact room (.boolean b)
  | integer {room : Nat} {n : Int} (hlow : -2 ^ 63 ≤ n) (hhigh : n < 2 ^ 64) :
      Exact room (.number (.integer n))
  | text {room : Nat} (s : String) : Exact room (.text s)
  | array {room : Nat} {items : List Json} (h : ∀ v ∈ items, Exact room v) :
      Exact (room + 1) (.array items)
  | object {room : Nat} {members : List (String × Json)} (h : ∀ m ∈ members, Exact room m.2)
      (hsorted : members.Pairwise fun m m' => m.1 < m'.1) : Exact (room + 1) (.object members)

end CameraFeed.Json
