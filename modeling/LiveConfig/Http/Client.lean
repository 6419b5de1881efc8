import LiveConfig.Http.Config
import LiveConfig.Http.Message
import LiveConfig.Json.Printer
import LiveConfig.Json.Reader
import LiveConfig.Url.Reader
/-!
Clients that exchange JSON over HTTP.

A request goes out only for an address that names a host and a scheme the client speaks, and that
a request can hold. A response counts only with the status 200 and a body that is one JSON value of
the wanted kind, with at most 127 lists and objects open at once.
-/

set_option autoImplicit false

namespace LiveConfig

namespace Http

inductive Error where
  | request (reason : String)
  | status (code : Nat)
  | decode
deriving DecidableEq, Repr

def Error.message : Error → String
  | request reason => "send request: " ++ reason
  | status code => "response code " ++ statusText code
  | decode => "decode response: error decoding response body"

/-- A client; it may still be used by those who hold it after it was closed. -/
structure Client where
  closed : Bool := false
deriving DecidableEq, Repr

/-- A network over worlds `σ`: the answer to a request for an address, if its server can be
reached. -/
abbrev Network (σ : Type) := Url → Request → σ → Option Response × σ

abbrev Decoder (α : Type) := Json → Option α

def anyValue : Decoder Json := some

def textValue : Decoder String
  | .text s => some s
  | _ => none

def byteValue : Decoder Nat
  | .number (.whole n) => if 0 ≤ n ∧ n < 256 then some n.toNat else none
  | _ => none

def readBody (body : String) : Option Json := (Json.read? (some 127) body).map Json.plain

def Response.decode {α : Type} (d : Decoder α) (r : Response) : Except Error α :=
  if r.status ≠ 200 then .error (.status r.status)
  else
    match (readBody r.body).bind d with
    | some value => .ok value
    | none => .error .decode

private def noRequest (u : Url) : String := "builder error for url (" ++ u.text ++ ")"

/-- The address of a text, if it names a host. -/
def address (url : String) : Except Error Url :=
  match Url.read? url with
  | none => .error (.request "builder error")
  | some u => if u.hasHost then .ok u else .error (.request (noRequest u))

def longestAddress : Nat := 65534

/-- Whether a request can hold an address: it is not too long, and no quote, grave accent or brace
is in its host. -/
def holdsAddress (u : Url) : Bool :=
  let odd : List Char := ['"', Char.ofNat 96, '\x7b', '\x7d']
  u.text.utf8ByteSize ≤ longestAddress && u.hostText.toList.all (!odd.contains ·)

namespace Client

variable {α σ : Type}

/-- Sends a request and decodes the response. A server that sends no final response has not answered. -/
def send (net : Network σ) (d : Decoder α) (u : Url) (request : Request) (w : σ) :
    Except Error α × σ :=
  let u := u.withoutUser
  if (u.scheme ≠ "http" ∧ u.scheme ≠ "https") ∨ !holdsAddress u then
    (.error (.request (noRequest u)), w)
  else
    let (response, w) := net u request w
    match response.filter Response.isFinal with
    | some response => (response.decode d, w)
    | none => (.error (.request ("error sending request for url (" ++ u.text ++ ")")), w)

def get (net : Network σ) (d : Decoder α) (url : String) (query : List (String × String)) (w : σ) :
    Except Error α × σ :=
  match address url with
  | .error e => (.error e, w)
  | .ok u =>
      let u := u.addPairs query
      send net d u ⟨"GET", u.target, none, ""⟩ w

def post (net : Network σ) (d : Decoder α) (url : String) (body : Json) (w : σ) :
    Except Error α × σ :=
  match address url with
  | .error e => (.error e, w)
  | .ok u => send net d u ⟨"POST", u.target, some "application/json", body.plain.compact⟩ w

def close (_ : Client) : Client := ⟨true⟩

end Client

end Http

end LiveConfig
