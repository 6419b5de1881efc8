import LiveConfig.Text.Printable
/-!
Values as they are shown to people, on one line.

A text stands between double quotes, in visible characters: the quote and the backslash get a
backslash, the four common control characters their letter, and every other hidden character its
code point in hexadecimal. A summary is a name and the fields in braces, with two dots at the end if
there is more than is shown.
-/

set_option autoImplicit false

namespace LiveConfig.Text

/-- The hexadecimal digits of a number in lower case, without leading zeros. -/
def hex (n : Nat) : String := String.ofList (Nat.toDigits 16 n)

def quoteChar (c : Char) : List Char :=
  if c = '"' then ['\\', '"']
  else if c = '\\' then ['\\', '\\']
  else if c = '\n' then ['\\', 'n']
  else if c = '\r' then ['\\', 'r']
  else if c = '\t' then ['\\', 't']
  else if c.toNat = 0 then ['\\', '0']
  else if isPrintable c then [c]
  else "\\u\x7b".toList ++ (hex c.toNat).toList ++ ['\x7d']

def quote (s : String) : String :=
  String.ofList ('"' :: s.toList.flatMap quoteChar ++ ['"'])

example : quote "a\"b\n" = "\"a\\\"b\\n\"" := by decide

def separated (separator : String) : List String → String
  | [] => ""
  | [s] => s
  | s :: rest => s ++ separator ++ separated separator rest

/-- The summary of a value of which these fields are shown; `more` tells whether there are
others. -/
def summary (name : String) (fields : List (String × String)) (more : Bool) : String :=
  let shown := fields.map fun f => f.1 ++ ": " ++ f.2
  let parts := if more then shown ++ [".."] else shown
  name ++ " \x7b " ++ separated ", " parts ++ " \x7d"

def ofBool (b : Bool) : String := if b then "true" else "false"

def quotedList (l : List String) : String := "[" ++ separated ", " (l.map quote) ++ "]"

def quotedOption : Option String → String
  | none => "None"
  | some s => "Some(" ++ quote s ++ ")"

end LiveConfig.Text
