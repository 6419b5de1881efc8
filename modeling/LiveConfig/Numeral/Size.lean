import LiveConfig.Numeral.Integer
/-!
Sizes: natural numbers below 2⁶⁴ in decimal, read with the reason why a text is none.

A plus sign may stand in front. The first character that is wrong, or that makes the number too
large, decides the reason.
-/

set_option autoImplicit false

namespace LiveConfig.Numeral

inductive SizeFault where
  | empty
  | invalidDigit
  | tooLarge
deriving DecidableEq, Repr

def SizeFault.message : SizeFault → String
  | empty => "cannot parse integer from empty string"
  | invalidDigit => "invalid digit found in string"
  | tooLarge => "number too large to fit in target type"

def continueSize (n : Nat) : List Char → Except SizeFault Nat
  | [] => .ok n
  | c :: l =>
      match digit? c with
      | none => .error .invalidDigit
      | some d =>
          let next := 10 * n + d
          if next < Width.size.span then continueSize next l else .error .tooLarge

def readSize (s : String) : Except SizeFault Nat :=
  match s.toList with
  | [] => .error .empty
  | ['+'] => .error .invalidDigit
  | '+' :: l => continueSize 0 l
  | l => continueSize 0 l

example : readSize "+042" = .ok 42 := by rfl
example : readSize "99999999999999999999x" = .error .tooLarge := by rfl

end LiveConfig.Numeral
