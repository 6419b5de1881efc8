/-!
Percent encoding: a character as the bytes of its UTF-8 form, each written in hexadecimal.

Which characters are written so depends on the place in the address; characters beyond ASCII
always are. Reading takes every `%` with two hexadecimal digits for a byte and all else as it is.
-/

set_option autoImplicit false

namespace LiveConfig.Url

/-- The upper-case hexadecimal digit of a number below 16. -/
def hexDigit (n : Nat) : Char := if n < 10 then Char.ofNat (48 + n) else Char.ofNat (55 + n)

def escapeByte (b : UInt8) : List Char :=
  ['%', hexDigit (b.toNat / 16), hexDigit (b.toNat % 16)]

def escapeChar (set : Char → Bool) (c : Char) : List Char :=
  if c.toNat < 128 && !set c then [c] else (String.utf8EncodeChar c).flatMap escapeByte

def escape (set : Char → Bool) (l : List Char) : List Char := l.flatMap (escapeChar set)

def isControl (c : Char) : Bool := c.toNat < 32 || c.toNat == 127

def inFragment (c : Char) : Bool := isControl c || [' ', '"', '<', '>', Char.ofNat 96].contains c

def inPath (c : Char) : Bool := inFragment c || ['#', '?', '\x7b', '\x7d'].contains c

def inUser (c : Char) : Bool :=
  inPath c || ['/', ':', ';', '=', '@', '[', '\\', ']', '^', '|'].contains c

def inQuery (c : Char) : Bool := isControl c || [' ', '"', '#', '<', '>'].contains c

def inSpecialQuery (c : Char) : Bool := inQuery c || c == '\''

/-- The characters kept in a form; all others are escaped, but for the blank, which becomes a
plus sign. -/
def keptInForm (c : Char) : Bool :=
  c.isAlphanum || ['*', '-', '.', '_'].contains c

def formText (l : List Char) : List Char :=
  l.flatMap fun c => if c = ' ' then ['+'] else escapeChar (fun c => !keptInForm c) c

def formPair (p : String × String) : String :=
  String.ofList (formText p.1.toList ++ '=' :: formText p.2.toList)

def hexValue? (c : Char) : Option Nat :=
  if '0' ≤ c ∧ c ≤ '9' then some (c.toNat - 48)
  else if 'a' ≤ c ∧ c ≤ 'f' then some (c.toNat - 87)
  else if 'A' ≤ c ∧ c ≤ 'F' then some (c.toNat - 55)
  else none

def unescape : List Char → List UInt8
  | '%' :: a :: b :: l =>
      match hexValue? a, hexValue? b with
      | some m, some n => (16 * m + n).toUInt8 :: unescape l
      | _, _ => 37 :: unescape (a :: b :: l)
  | c :: l => String.utf8EncodeChar c ++ unescape l
  | [] => []

example : escape inPath "é?".toList = "%C3%A9%3F".toList := by decide
example : formPair ("a b", "~*") = "a+b=%7E*" := by decide

end LiveConfig.Url
