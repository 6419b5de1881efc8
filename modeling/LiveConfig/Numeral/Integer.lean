/-!
Integers of fixed width in decimal.

A numeral is an optional sign and at least one ASCII digit; leading zeros are allowed, and the
minus sign only for signed types. It is read without an intermediate limit, and the range is
checked on the integer it denotes, so nothing wraps.
-/

set_option autoImplicit false

namespace LiveConfig

/-- The number of bits of an integer type; the size of an address is 64 bits. -/
inductive Width where
  | w8 | w16 | w32 | w64 | size
deriving DecidableEq, Repr

namespace Width

def span : Width → Nat
  | w8 => 256
  | w16 => 65536
  | w32 => 4294967296
  | w64 | size => 18446744073709551616

def name : Width → String
  | w8 => "8"
  | w16 => "16"
  | w32 => "32"
  | w64 => "64"
  | size => "size"

end Width

/-- An integer type: its width, and whether it has negative numbers. -/
structure IntType where
  signed : Bool
  width : Width
deriving DecidableEq, Repr

namespace IntType

/-- The short name of the type, such as `u16`. -/
def name (t : IntType) : String := (if t.signed then "i" else "u") ++ t.width.name

def all : List IntType :=
  [Width.w8, .w16, .w32, .w64, .size].flatMap fun w => [⟨true, w⟩, ⟨false, w⟩]

def min (t : IntType) : Int := if t.signed then -(t.width.span / 2 : Nat) else 0

def max (t : IntType) : Int :=
  if t.signed then (t.width.span / 2 : Nat) - 1 else (t.width.span : Int) - 1

def Holds (t : IntType) (n : Int) : Prop := t.min ≤ n ∧ n ≤ t.max

instance (t : IntType) (n : Int) : Decidable (t.Holds n) :=
  inferInstanceAs (Decidable (_ ∧ _))

end IntType

namespace Numeral

def digit? (c : Char) : Option Nat :=
  if '0' ≤ c ∧ c ≤ '9' then some (c.toNat - '0'.toNat) else none

def readDigits (n : Nat) : List Char → Option Nat
  | [] => some n
  | c :: l => do readDigits (10 * n + (← digit? c)) l

def readNat? : List Char → Option Nat
  | [] => none
  | l => readDigits 0 l

def readInt? (t : IntType) (s : String) : Option Int := do
  let n ←
    match s.toList with
    | '+' :: l => (readNat? l).map Int.ofNat
    | '-' :: l => if t.signed then (readNat? l).map fun n => -Int.ofNat n else none
    | l => (readNat? l).map Int.ofNat
  if t.Holds n then some n else none

example : readInt? ⟨true, .w8⟩ "-128" = some (-128) := by decide
example : readInt? ⟨false, .w8⟩ "256" = none := by decide
example : readInt? ⟨false, .w16⟩ "+0080" = some 80 := by decide

end Numeral

end LiveConfig
