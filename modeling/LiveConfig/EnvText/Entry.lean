import LiveConfig.EnvText.Lines
import LiveConfig.EnvText.Value
/-!
One logical line of an env text: an entry `key=value`, or nothing.

A key starts with an ASCII letter or an underscore and goes on with letters, digits, underscores
and dots. The word `export` before a key is skipped; alone before `=` it is a key itself.
-/

set_option autoImplicit false

namespace LiveConfig.EnvText

/-- A line that is no entry, and the position that shows it. -/
structure LineFault where
  line : String
  index : Nat
deriving DecidableEq, Repr

def byteLength (l : List Char) : Nat := (String.ofList l).utf8ByteSize

def isKeyStart (c : Char) : Bool := c.isAlpha || c == '_'

def isKeyChar (c : Char) : Bool := c.isAlphanum || c == '_' || c == '.'

def readKey? : List Char → Option (List Char × List Char)
  | [] => none
  | c :: l =>
      if isKeyStart c then some (c :: l.takeWhile isKeyChar, l.dropWhile isKeyChar) else none

/-- The key of an entry and what follows its equals sign; otherwise the rest of the line at which
it stops being an entry. -/
def readName (l : List Char) : Except (List Char) (String × List Char) :=
  match readKey? l with
  | none => .error l
  | some (key, rest) =>
      match Text.trimStart rest with
      | '=' :: value => .ok (String.ofList key, value)
      | rest =>
          if key = "export".toList then
            match readKey? rest with
            | none => .error rest
            | some (key, rest) =>
                match Text.trimStart rest with
                | '=' :: value => .ok (String.ofList key, value)
                | rest => .error rest
          else .error rest

/-- Reads one logical line. A position in a key counts the bytes before it in the line, one in a
value the characters before it in the value. -/
def readEntry (lookup : String → String) (line : List Char) :
    Except LineFault (Option (String × String)) :=
  let body := Text.trimEnd line
  match Text.trimStart body with
  | [] | '#' :: _ => .ok none
  | start =>
      match readName start with
      | .error rest => .error ⟨String.ofList line, byteLength body - byteLength rest⟩
      | .ok (key, rest) =>
          match Text.trimStart rest with
          | [] | '#' :: _ => .ok (some (key, ""))
          | value =>
              match readValue lookup (.plain false) 0 value with
              | .ok text => .ok (some (key, String.ofList text))
              | .error (.at index) => .error ⟨String.ofList value, index⟩
              | .error .unterminated => .error ⟨String.ofList value, byteLength value - 1⟩

end LiveConfig.EnvText
