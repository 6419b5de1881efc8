import LiveConfig.Json.Basic
/-!
Looking into a value that is expected to have a certain shape.

A member that is absent counts as null. Each reading has a default for values of another kind, so
that a reader with strict needs asks for the option instead.
-/

set_option autoImplicit false

namespace LiveConfig.Json

def text? : Json → Option String
  | .text s => some s
  | _ => none

def int? : Json → Option Int
  | .number (.whole n) => some n
  | _ => none

/-- The items of a list, and none of anything else. -/
def items : Json → List Json
  | .list l => l
  | _ => []

/-- The members of an object, and none of anything else. -/
def members (j : Json) : List (String × Json) := j.members?.getD []

/-- The text of a value, empty if it is none. -/
def textD (j : Json) : String := j.text?.getD ""

def member (j : Json) (name : String) : Json := (j.get? name).getD .null

def textAt (j : Json) (name : String) : String := (j.member name).textD

def intAt (j : Json) (name : String) : Int := (j.member name).int?.getD 0

def natAt (j : Json) (name : String) (n : Nat) : Nat := ((j.member name).int?.map Int.toNat).getD n

def boolAt (j : Json) (name : String) (b : Bool) : Bool :=
  match j.member name with
  | .bool b => b
  | _ => b

def itemsAt (j : Json) (name : String) : List Json := (j.member name).items

def textsAt (j : Json) (name : String) : List String := (j.itemsAt name).map textD

def entriesAt (j : Json) (name : String) : List (String × String) :=
  (j.member name).members.map fun m => (m.1, m.2.textD)

def texts (l : List String) : Json := .list (l.map .text)

def ofText? : Option String → Json
  | some s => .text s
  | none => .null

def ofEntries (l : List (String × String)) : Json := .record (l.map fun e => (e.1, .text e.2))

mutual

def mapText (f : String → String) : Json → Json
  | .text s => .text (f s)
  | .list items => .list (mapTextItems f items)
  | .record ms => .record (mapTextMembers f ms)
  | j => j

def mapTextItems (f : String → String) : List Json → List Json
  | [] => []
  | j :: items => mapText f j :: mapTextItems f items

def mapTextMembers (f : String → String) : List (String × Json) → List (String × Json)
  | [] => []
  | (n, j) :: ms => (f n, mapText f j) :: mapTextMembers f ms

end

end LiveConfig.Json
