import LiveConfig.Url.Host
/-!
Addresses on the web, and their text.
-/

set_option autoImplicit false

namespace LiveConfig

/-- The path of an address: names between slashes, or a text that no name can be taken from. -/
inductive Url.Path where
  | segments (names : List String)
  | rootless (text : String)
deriving DecidableEq, Repr

structure Url where
  scheme : String
  user : String := ""
  password : Option String := none
  host : Option Url.Host := none
  port : Option Nat := none
  path : Url.Path := .segments []
  query : Option String := none
  fragment : Option String := none
deriving DecidableEq, Repr

namespace Url

/-- The schemes of the web, with the ports that go without saying. -/
def specialSchemes : List (String × Option Nat) :=
  [("http", some 80), ("https", some 443), ("ws", some 80), ("wss", some 443), ("ftp", some 21),
    ("file", none)]

def isSpecial (scheme : String) : Bool := (specialSchemes.map (·.1)).contains scheme

/-- The port of a scheme that goes without saying. -/
def defaultPort? (scheme : String) : Option Nat := (specialSchemes.lookup scheme).bind id

def hasHost (u : Url) : Bool :=
  match u.host with
  | none | some .empty => false
  | some _ => true

def hostText (u : Url) : String := (u.host.map Host.text).getD ""

def Path.text : Path → String
  | segments names => String.join (names.map ("/" ++ ·))
  | rootless text => text

private def userText (u : Url) : String :=
  let password :=
    match u.password with
    | some p => ":" ++ p
    | none => ""
  if u.user = "" ∧ u.password = none then "" else u.user ++ password ++ "@"

private def portText (u : Url) : String :=
  match u.port with
  | some p => ":" ++ toString p
  | none => ""

private def authorityText (u : Url) : String :=
  match u.host, u.path with
  | some host, _ => "//" ++ u.userText ++ host.text ++ u.portText
  | none, .segments ("" :: _ :: _) => "/."
  | none, _ => ""

private def partText (mark : String) : Option String → String
  | some s => mark ++ s
  | none => ""

def target (u : Url) : String := u.path.text ++ partText "?" u.query

def text (u : Url) : String :=
  u.scheme ++ ":" ++ u.authorityText ++ u.target ++ partText "#" u.fragment

/-- The address with pairs added to its query. A query that is empty afterwards is taken away. -/
def addPairs (u : Url) (pairs : List (String × String)) : Url :=
  let old := (u.query.getD "")
  let new := Text.separated "&" ((if old = "" then [] else [old]) ++ pairs.map formPair)
  { u with query := if new = "" then none else some new }

private def isText (s : String) : Bool := (String.fromUTF8? ⟨(unescape s.toList).toArray⟩).isSome

/-- The address without the name and the password of a user. They stay if the name is no text, or if
there is none and the password is no text. -/
def withoutUser (u : Url) : Url :=
  let named := u.user ≠ "" || u.password.any isText
  if isText u.user && named then { u with user := "", password := none } else u

end Url

end LiveConfig
