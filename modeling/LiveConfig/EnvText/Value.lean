import LiveConfig.Text.Alphanumeric
/-!
The value of an entry of an env text.

Outside quotes a space or a tab ends the value, and only blanks or a comment may follow. Single
quotes take everything literally. Elsewhere a backslash escapes `\ ' " $`, the space and `n`, and
a dollar sign starts a name: letters and digits, or anything between braces. The character that
ends a bare name stands for itself, even if it is a quote.
-/

set_option autoImplicit false

namespace LiveConfig.EnvText

/-- Where the reader of a value stands; `quoted` tells whether double quotes are open. -/
inductive ValueMode where
  | plain (quoted : Bool)
  | escaped (quoted : Bool)
  | strong
  | name (quoted : Bool) (read : List Char)
  | braced (quoted : Bool) (read : List Char)
  | trailing
deriving DecidableEq

inductive ValueFault where
  /-- The character at this index does not fit. -/
  | at (index : Nat)
  /-- A quote or a brace is still open at the end. -/
  | unterminated
deriving DecidableEq, Repr

/-- The character that a backslash before `c` stands for. -/
def unescape? (c : Char) : Option Char :=
  if c = '\\' ∨ c = '\'' ∨ c = '"' ∨ c = '$' ∨ c = ' ' then some c
  else if c = 'n' then some '\n'
  else none

/-- One character further: the text that it adds and the mode after it. `none` if it does not
fit. -/
def ValueMode.step? (lookup : String → String) : ValueMode → Char → Option (List Char × ValueMode)
  | .trailing, c => if c = ' ' ∨ c = '\t' then some ([], .trailing) else none
  | .escaped q, c => (unescape? c).map fun d => ([d], .plain q)
  | .strong, c => if c = '\'' then some ([], .plain false) else some ([c], .strong)
  | .name q read, c =>
      if Text.isAlphanumeric c then some ([], .name q (read ++ [c]))
      else if c = '{' ∧ read = [] then some ([], .braced q [])
      else
        let value := (lookup (String.ofList read)).toList
        if c = '$' then some (value, .name q []) else some (value ++ [c], .plain q)
  | .braced q read, c =>
      if c = '}' then some ((lookup (String.ofList read)).toList, .plain q)
      else some ([], .braced q (read ++ [c]))
  | .plain q, c =>
      if c = '$' then some ([], .name q [])
      else if c = '\\' then some ([], .escaped q)
      else if c = '"' then some ([], .plain !q)
      else if q then some ([c], .plain q)
      else if c = '\'' then some ([], .strong)
      else if c = ' ' ∨ c = '\t' then some ([], .trailing)
      else some ([c], .plain q)

def ValueMode.finish? (lookup : String → String) : ValueMode → Option (List Char)
  | .plain false | .escaped false | .trailing => some []
  | .name false read => some (lookup (String.ofList read)).toList
  | _ => none

/-- Reads the rest of a value from a mode; `index` counts the characters before it. -/
def readValue (lookup : String → String) :
    ValueMode → Nat → List Char → Except ValueFault (List Char)
  | mode, _, [] =>
      match mode.finish? lookup with
      | some added => .ok added
      | none => .error .unterminated
  | mode, index, c :: l =>
      if mode = .trailing ∧ c = '#' then .ok []
      else
        match mode.step? lookup c with
        | none => .error (.at index)
        | some (added, mode) => do return added ++ (← readValue lookup mode (index + 1) l)

end LiveConfig.EnvText
