import LiveConfig.Json.Basic
/-!
The compact text of a JSON value, on one line and without blanks.

Inside a text the quote, the backslash and every control character are escaped, the rest stands
for itself.
-/

set_option autoImplicit false

namespace LiveConfig.Json

private def lowHex (n : Nat) : Char := Nat.digitChar n

def escape (c : Char) : List Char :=
  if c = '"' then ['\\', '"']
  else if c = '\\' then ['\\', '\\']
  else if c.toNat = 8 then ['\\', 'b']
  else if c.toNat = 9 then ['\\', 't']
  else if c.toNat = 10 then ['\\', 'n']
  else if c.toNat = 12 then ['\\', 'f']
  else if c.toNat = 13 then ['\\', 'r']
  else if c.toNat < 32 then ['\\', 'u', '0', '0', lowHex (c.toNat / 16), lowHex (c.toNat % 16)]
  else [c]

def renderText (s : String) : List Char := '"' :: s.toList.flatMap escape ++ ['"']

def Number.render : Number → List Char
  | .whole n => (toString n).toList
  | .real x => x.text.toList

mutual

def render : Json → List Char
  | .null => ['n', 'u', 'l', 'l']
  | .bool true => ['t', 'r', 'u', 'e']
  | .bool false => ['f', 'a', 'l', 's', 'e']
  | .number n => n.render
  | .text s => renderText s
  | .list items => '[' :: renderItems true items ++ [']']
  | .record ms => '{' :: renderMembers true ms ++ ['}']

/-- The items of a list; a comma stands before each but the first. -/
def renderItems (first : Bool) : List Json → List Char
  | [] => []
  | j :: items => (if first then [] else [',']) ++ (render j ++ renderItems false items)

/-- The members of an object; a comma stands before each but the first. -/
def renderMembers (first : Bool) : List (String × Json) → List Char
  | [] => []
  | (n, j) :: ms =>
      (if first then [] else [',']) ++
        (renderText n ++ ':' :: (render j ++ renderMembers false ms))

end

def compact (j : Json) : String := String.ofList (render j)

end LiveConfig.Json
