import CameraFeed.Http.Status
import CameraFeed.Text.Utf8
import CameraFeed.Url.Parser

/-! # Http — requests and replies

  A `Reply` is unreachable, or an answer with a status and a body. A body is a list of parts, among
  which there may be a silence of the length of the limit that the reader has, and at whose end the
  connection may be lost. -/

namespace CameraFeed.Http

/-! ### Requests and replies -/

/-- A request. -/
structure Request where
  /-- The address, without a name and a password. -/
  address : Url
  /-- The value of the `accept` header. -/
  accept : Option String
  /-- The value of the `authorization` header. -/
  authorization : Option String
  deriving DecidableEq, Repr

/-- A part of a body. -/
inductive Part where
  | chunk (octets : List UInt8)
  /-- No octet arrived for the limit of the reader. -/
  | silence
  /-- The connection is lost. -/
  | broken
  deriving DecidableEq, Repr

/-- The reply to a request. -/
inductive Reply where
  /-- The server cannot be reached. -/
  | unreachable
  /-- An answer. The body ends after its parts. -/
  | answer (status : Nat) (phrase : String) (body : List Part)
  deriving DecidableEq, Repr

/-! ### Faults -/

/-- Why a request failed. -/
inductive Fault where
  /-- The address is none. -/
  | badAddress
  | unreachable (address : Url)
  /-- The answer has a status that says so. -/
  | refused (failure : String) (status : Nat) (phrase : String) (address : Url)
  /-- The body broke off, or it is not what it should be. -/
  | badBody
  deriving DecidableEq, Repr

/-- The message of a fault. -/
def Fault.message : Fault → String
  | badAddress => "request error: builder error"
  | unreachable address => "request error: error sending request for url (" ++ address.text ++ ")"
  | refused failure status phrase address =>
    "request error: HTTP status " ++ failure ++ " (" ++ Decimal.text status ++ " " ++ phrase
      ++ ") for url (" ++ address.text ++ ")"
  | badBody => "request error: error decoding response body"

/-! ### Header fields -/

/-- The octet may be in the value of a header field: a tab, or anything that controls nothing. -/
def inHeader (b : UInt8) : Bool := b == 0x09 || (0x20 ≤ b && b != 0x7F)

/-- The value of the field that a token is sent in, if it can be sent. -/
def bearer? (token : String) : Option String :=
  let value := "Bearer " ++ token
  if (Text.Utf8.octets value).all inHeader then some value else none

/-- The message about a value that cannot be in a header. -/
def badHeaderText : String := "failed to parse header value"

/-! ### Asking -/

/-- Asks servers, and identifies itself in the same way each time. -/
structure Client where
  authorization : Option String
  deriving DecidableEq, Repr

namespace Client

/-- A client that sends a token, if it can be sent. -/
def new? : Option String → Option Client
  | none => some ⟨none⟩
  | some token => (bearer? token).map fun value => ⟨some value⟩

/-- The request for an address. -/
def request (c : Client) (address : Url) (accept : Option String) : Request :=
  ⟨address.anonymous, accept, c.authorization⟩

end Client

/-- The body of a reply to a request. -/
def Reply.body (r : Reply) (request : Request) : Except Fault (List Part) :=
  match r with
  | unreachable => .error (.unreachable request.address)
  | answer status phrase body =>
    match Status.failure? status with
    | some failure => .error (.refused failure status phrase request.address)
    | none => .ok body

/-- All octets of a body. Silence is waited through. -/
def wholeBody : List Part → Except Fault (List UInt8)
  | [] => .ok []
  | .chunk octets :: rest => do
    let more ← wholeBody rest
    .ok (octets ++ more)
  | .silence :: rest => wholeBody rest
  | .broken :: _ => .error .badBody

end CameraFeed.Http
