/-!
Floating-point numbers of 53 binary digits, in exact arithmetic.

A finite number is a sign, a mantissa and a power of two. Rounding a quotient goes to the nearest
number and to the even mantissa on a tie. The decimal text of a number has the fewest digits that
read back as it, and of those the nearest.
-/

set_option autoImplicit false

namespace LiveConfig

/-- A finite floating-point number: a sign, and `mantissa * 2 ^ exponent` for the magnitude. -/
structure Binary64 where
  negative : Bool
  mantissa : Nat
  exponent : Int
deriving DecidableEq, Repr

namespace Binary64

def zero (negative : Bool) : Binary64 := ⟨negative, 0, -1074⟩

def minExponent : Int := -1074

def maxExponent : Int := 971

/-- The least mantissa of full precision, two to the power 52; every mantissa is below twice as
much. -/
def fullMantissa : Nat := 4503599627370496

def ratio (x : Binary64) : Nat × Nat :=
  if 0 ≤ x.exponent then (x.mantissa * Nat.pow 2 x.exponent.toNat, 1)
  else (x.mantissa, Nat.pow 2 (-x.exponent).toNat)

private def quotientAt (num den : Nat) (e : Int) : Nat × Nat × Nat :=
  let n := if 0 ≤ e then num else num * Nat.pow 2 (-e).toNat
  let d := if 0 ≤ e then den * Nat.pow 2 e.toNat else den
  (n / d, n % d, d)

/-- The number nearest to `num / den`, or `none` if that lies beyond the largest number. -/
def ofRatio (negative : Bool) (num den : Nat) : Option Binary64 :=
  if num = 0 then some (zero negative)
  else
    -- `num / den` has `log2 num - log2 den` or one binary digit less before the point
    let guess : Int := (num.log2 : Int) - (den.log2 : Int) - 52
    let e := if (quotientAt num den guess).1 < fullMantissa then guess - 1 else guess
    let e := max e minExponent
    let (q, r, d) := quotientAt num den e
    let m := if 2 * r > d ∨ (2 * r = d ∧ q % 2 = 1) then q + 1 else q
    let x : Binary64 :=
      if m = 2 * fullMantissa then ⟨negative, fullMantissa, e + 1⟩ else ⟨negative, m, e⟩
    if x.exponent > maxExponent then none else some x

def mul (x y : Binary64) : Option Binary64 :=
  ofRatio (x.negative != y.negative) (x.ratio.1 * y.ratio.1) (x.ratio.2 * y.ratio.2)

def div (x y : Binary64) : Option Binary64 :=
  ofRatio (x.negative != y.negative) (x.ratio.1 * y.ratio.2) (x.ratio.2 * y.ratio.1)

private def powerOfTen (k : Nat) : Option Binary64 := ofRatio false (Nat.pow 10 k) 1

/-- The value of a 64-bit significand and a power of ten: the significand is rounded first, and
then multiplied or divided by a rounded power, at most 308 places at a time. `none` stands for a
number out of range. -/
def ofDecimal (negative : Bool) (significand : Nat) (exponent : Int) : Option Binary64 := do
  let x ← ofRatio negative significand 1
  if 0 ≤ exponent then
    if exponent ≤ 308 then x.mul (← powerOfTen exponent.toNat)
    else if x.mantissa = 0 then some x
    else none
  else go x (-exponent).toNat (exponent.natAbs / 308)
where
  /-- Divides by ten `places` times, in `rounds` steps of 308 and one last step. -/
  go (x : Binary64) (places : Nat) : Nat → Option Binary64
    | 0 => do x.div (← powerOfTen places)
    | rounds + 1 => do
        if places ≤ 308 then x.div (← powerOfTen places)
        else if x.mantissa = 0 then some x
        else go (← x.div (← powerOfTen 308)) (places - 308) rounds

/-- The power of ten of the first digit of a positive quotient. -/
private def leadingPlace (num den : Nat) : Int :=
  if den ≤ num then ((Nat.toDigits 10 (num / den)).length : Int) - 1
  else -(below num 1 400 : Int)
where
  /-- The least number of places by which `num` reaches `den`, from `places` on. -/
  below (num places : Nat) : Nat → Nat
    | 0 => places
    | fuel + 1 => if den ≤ num * Nat.pow 10 places then places else below num (places + 1) fuel

private def absDiff (a b : Nat) : Nat := (a - b) + (b - a)

/-- The digits, as a number, and the power of ten of the last one, of the shortest decimal that
reads back. -/
def shortest (x : Binary64) : Nat × Int :=
  let (n, d) := x.ratio
  let place := leadingPlace n d
  -- in units of a quarter of the last binary place, all ends of the interval are whole
  let unit : Binary64 := ⟨false, 1, x.exponent - 2⟩
  let below := if x.mantissa = fullMantissa ∧ x.exponent > minExponent then 1 else 2
  let low := 4 * x.mantissa - below
  let high := 4 * x.mantissa + 2
  let (un, ud) := unit.ratio
  let closed := x.mantissa % 2 = 0
  /- whether `c * 10 ^ p` lies in the interval -/
  let hits (c : Nat) (p : Int) : Bool :=
    let cn := if 0 ≤ p then c * Nat.pow 10 p.toNat else c
    let cd := if 0 ≤ p then 1 else Nat.pow 10 (-p).toNat
    let at' := cn * ud
    let lo := low * un * cd
    let hi := high * un * cd
    if closed then lo ≤ at' && at' ≤ hi else lo < at' && at' < hi
  let candidate (k : Nat) : Option (Nat × Int) :=
    let p := place - k
    let num := if 0 ≤ p then n else n * Nat.pow 10 (-p).toNat
    let den := if 0 ≤ p then d * Nat.pow 10 p.toNat else d
    let c := num / den
    let near (c : Nat) := absDiff (c * den) num
    match hits c p, hits (c + 1) p with
    | true, true =>
        if near (c + 1) < near c ∨ (near (c + 1) = near c ∧ c % 2 = 1) then some (c + 1, p)
        else some (c, p)
    | true, false => some (c, p)
    | false, true => some (c + 1, p)
    | false, false => none
  ((List.range 17).findSome? candidate).getD (n / d, 0)

private def dropZeros (digits : Nat) (place : Int) : Nat → Nat × Int
  | 0 => (digits, place)
  | fuel + 1 =>
      if digits % 10 = 0 ∧ digits ≠ 0 then dropZeros (digits / 10) (place + 1) fuel
      else (digits, place)

/-- The decimal text: positional while the point falls between five places before the first digit
and sixteen after it, always with a digit after the point, else with a signed exponent. -/
def text (x : Binary64) : String :=
  let sign := if x.negative then "-" else ""
  if x.mantissa = 0 then sign ++ "0.0"
  else
    let (c, p) := x.shortest
    let (c, p) := dropZeros c p 20
    let ds := Nat.toDigits 10 c
    let point : Int := ds.length + p
    sign ++
      if 0 ≤ p ∧ point ≤ 16 then
        String.ofList (ds ++ List.replicate p.toNat '0') ++ ".0"
      else if 0 < point ∧ point ≤ 16 then
        String.ofList (ds.take point.toNat ++ '.' :: ds.drop point.toNat)
      else if -5 < point ∧ point ≤ 0 then
        String.ofList ('0' :: '.' :: (List.replicate (-point).toNat '0' ++ ds))
      else
        let exponent := (if 0 < point then "+" else "") ++ toString (point - 1)
        match ds with
        | [d] => String.ofList [d] ++ "e" ++ exponent
        | d :: rest => String.ofList (d :: '.' :: rest) ++ "e" ++ exponent
        | [] => "0.0"

end Binary64

end LiveConfig
