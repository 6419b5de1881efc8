import LiveConfig.Json.Token
/-!
The lines of a text, each with its line feed, and the bytes that a text of hexadecimal digits stands
for.
-/

set_option autoImplicit false

namespace LiveConfig.Text

/-- Cuts after every line feed; what follows the last one is a line unless it is empty. -/
def cutLines : List Char → List (List Char)
  | [] => []
  | c :: l =>
      if c = '\n' then [c] :: cutLines l
      else
        match cutLines l with
        | [] => [[c]]
        | line :: rest => (c :: line) :: rest

theorem flatten_cutLines (l : List Char) : (cutLines l).flatten = l := by
  induction l with
  | nil => rfl
  | cons c l ih =>
      simp only [cutLines]
      split
      · simp [ih]
      · split
        · rename_i h
          simp [h] at ih
          simp [ih]
        · rename_i h
          simp [h] at ih
          simp [ih]

def lines (s : String) : List String := (cutLines s.toList).map String.ofList

/-- Reads pairs of digits onto bytes; a digit left over at the end is dropped. -/
def appendHex (bytes : ByteArray) : List Char → ByteArray
  | high :: low :: l =>
      let n := (Json.hexDigit? high).getD 0 * 16 + (Json.hexDigit? low).getD 0
      appendHex (bytes.push n.toUInt8) l
  | _ => bytes

def ofHex (s : String) : ByteArray := appendHex .empty s.toList

end LiveConfig.Text
