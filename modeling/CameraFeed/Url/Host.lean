import CameraFeed.Query.Percent
import CameraFeed.Url.Address
import CameraFeed.Url.Domain.Name
import CameraFeed.Url.Segments

/-! # Host — the name or the number of a server

  The host of a web address is brought into one form: octets written with a percent sign are put
  in, a name is brought into its plain form and rewritten in ASCII, and numbers are written in one
  way. Hosts of other schemes stay as they are. -/

namespace CameraFeed.Url

/-- Why a text is no address. -/
inductive Fault where
  /-- There is no scheme. -/
  | relative
  | emptyHost
  | invalidPort
  | invalidIpv4
  | invalidIpv6
  /-- The name has a character that no name has. -/
  | invalidName
  /-- The host of another scheme has a character that no host has. -/
  | invalidCharacter
  deriving DecidableEq, Repr

/-- The message of a fault. -/
def Fault.message : Fault → String
  | relative => "relative URL without a base"
  | emptyHost => "empty host"
  | invalidPort => "invalid port number"
  | invalidIpv4 => "invalid IPv4 address"
  | invalidIpv6 => "invalid IPv6 address"
  | invalidName => "invalid international domain name"
  | invalidCharacter => "invalid domain character"

/-- The character cannot be in the name of a host. -/
def isForbidden (c : Char) : Bool :=
  c.toNat ≤ 0x20 || c.toNat == 0x7F || "%#/:<>?@[\\]^|".toList.contains c

/-- The text between square brackets, as an address of 128 bits. -/
def bracketed (cs : List Char) : Except Fault (List Char) :=
  if cs.getLast? = some ']' then
    match Ipv6.read? cs.dropLast with
    | some ns => .ok (Ipv6.written ns)
    | none => .error .invalidIpv6
  else .error .invalidIpv6

/-- A name in ASCII, or the number that it is. -/
def namedHost (name : List Char) : Except Fault (List Char) :=
  if Ipv4.isMeant name then
    match Ipv4.read? name with
    | some n => .ok (Ipv4.written n)
    | none => .error .invalidIpv4
  else .ok name

/-- The host of a web address. -/
def webHost : List Char → Except Fault (List Char)
  | '[' :: cs => bracketed cs
  | cs =>
    match Domain.plain? (Text.Utf8.decode (Query.percentDecoded (Text.Utf8.encode cs))) with
    | none => .error .invalidName
    | some name =>
      -- A name may become empty, since some characters have no meaning.
      if name.any isForbidden then .error .invalidName
      else if name.isEmpty then .error .emptyHost
      else
        match Domain.ascii? name with
        | none => .error .invalidName
        | some name => namedHost name

/-- The character cannot be in the host of another scheme. -/
def isForbiddenElsewhere (c : Char) : Bool :=
  c.toNat == 0 || "\t\n\r #/:<>?@[\\]^|".toList.contains c

/-- The host of an address of another scheme. -/
def otherHost : List Char → Except Fault (List Char)
  | '[' :: cs => bracketed cs
  | cs =>
    if cs.any isForbiddenElsewhere then .error .invalidCharacter
    else .ok (Query.percentEncoded isControl cs)

end CameraFeed.Url
