/-!
What does not count in a text: blanks at its ends, and the case of ASCII letters.

`isBlank` is the Unicode property White_Space, which holds more characters than core's
`Char.isWhitespace`. Trimming removes blanks from the two ends of a text and nothing else.
-/

set_option autoImplicit false

namespace LiveConfig.Text

def isBlank (c : Char) : Bool :=
  let n := c.toNat
  n == 0x20 || (0x9 ≤ n && n ≤ 0xD) || n == 0x85 || n == 0xA0 || n == 0x1680 ||
    (0x2000 ≤ n && n ≤ 0x200A) || n == 0x2028 || n == 0x2029 || n == 0x202F ||
    n == 0x205F || n == 0x3000

def trimStart (l : List Char) : List Char := l.dropWhile isBlank

/-- The characters up to the last that is not blank. -/
def trimEnd : List Char → List Char
  | [] => []
  | c :: l =>
      match trimEnd l with
      | [] => if isBlank c then [] else [c]
      | kept => c :: kept

/-- The text without the blanks at its two ends. -/
def trim (s : String) : String := String.ofList (trimEnd (trimStart s.toList))

/-- A text is blank when it holds no character or blank characters only. -/
def blank (s : String) : Bool := s.toList.all isBlank

example : trim "\u00a0 a b\n" = "a b" := by decide

def lower (s : String) : String := String.ofList (s.toList.map Char.toLower)

/-- Whether two texts are equal up to the case of ASCII letters. -/
def equalsIgnoringCase (s t : String) : Bool := lower s = lower t

example : equalsIgnoringCase "StdOut" "stdout" = true := by decide

end LiveConfig.Text
