import LiveConfig.Numeral.Binary64
/-!
JSON values.

The members of an object are kept as written, in order and with repeated names. A *plain* object
names each member once, in ascending order, and `Json.plain` brings a value to that form: of
members with one name the last one stands.
-/

set_option autoImplicit false

namespace LiveConfig

/-- A JSON number: whole, or with a fraction or an exponent. -/
inductive Json.Number where
  | whole (n : Int)
  | real (x : Binary64)
deriving DecidableEq, Repr

inductive Json where
  | null
  | bool (b : Bool)
  | number (n : Json.Number)
  | text (s : String)
  | list (items : List Json)
  | record (members : List (String × Json))

namespace Json

def int (n : Int) : Json := .number (.whole n)

def nat (n : Nat) : Json := .number (.whole n)

/-- The members of an object; any other value has none. -/
def members? : Json → Option (List (String × Json))
  | .record ms => some ms
  | _ => none

def get? (j : Json) (name : String) : Option Json :=
  j.members?.bind fun ms => (ms.reverse.find? (·.1 = name)).map (·.2)

/-- Puts a member into a list with ascending names, in place of one with the same name. -/
def putMember (name : String) (value : Json) : List (String × Json) → List (String × Json)
  | [] => [(name, value)]
  | (n, v) :: ms =>
      if name < n then (name, value) :: (n, v) :: ms
      else if name = n then (name, value) :: ms
      else (n, v) :: putMember name value ms

/-- The members in ascending order of their names, the last of each name. -/
def arrange (ms : List (String × Json)) : List (String × Json) :=
  ms.foldl (fun sorted m => putMember m.1 m.2 sorted) []

mutual

def plain : Json → Json
  | .list items => .list (plainItems items)
  | .record ms => .record (arrange (plainMembers ms))
  | j => j

def plainItems : List Json → List Json
  | [] => []
  | j :: items => plain j :: plainItems items

def plainMembers : List (String × Json) → List (String × Json)
  | [] => []
  | (n, j) :: ms => (n, plain j) :: plainMembers ms

end

end Json

end LiveConfig
