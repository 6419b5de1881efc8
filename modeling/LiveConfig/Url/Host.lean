import LiveConfig.Text.Summary
import LiveConfig.Url.Domain.Ascii
import LiveConfig.Url.Percent
/-!
Hosts of addresses: a name, or a number of the fourth or sixth version of the network protocol.

A name is taken in its ASCII form. One whose last part is a number must be a number as a whole.
-/

set_option autoImplicit false

namespace LiveConfig.Url

inductive Host where
  /-- No host is named, though there is a place for it. -/
  | empty
  /-- A name. -/
  | domain (name : String)
  /-- A number of 32 bits. -/
  | ipv4 (address : Nat)
  /-- Eight numbers of 16 bits. -/
  | ipv6 (pieces : List Nat)
deriving DecidableEq, Repr

namespace Host

/-! ### Numbers of the fourth version -/

private def digitsValue? (base : Nat) (l : List Char) : Option Nat :=
  l.foldlM (fun n c => do
    let d ← hexValue? c
    if d < base then some (base * n + d) else none) 0

/-- Reads one part: hexadecimal after `0x`, octal after another `0`, decimal otherwise. -/
def numberPart? : List Char → Option Nat
  | [] => none
  | '0' :: 'x' :: l => digitsValue? 16 l
  | '0' :: 'X' :: l => digitsValue? 16 l
  | '0' :: c :: l => digitsValue? 8 (c :: l)
  | l => digitsValue? 10 l

def parts (l : List Char) : List (List Char) := l.splitOn '.'

/-- The parts of a name without an empty one at its end. -/
def significantParts (l : List Char) : List (List Char) :=
  let ps := parts l
  if ps.length > 1 ∧ ps.getLast? = some [] then ps.dropLast else ps

/-- Whether the last part of a name is a number. -/
def endsInNumber (l : List Char) : Bool :=
  match (significantParts l).getLast? with
  | some [] | none => false
  | some p => p.all Char.isDigit || (numberPart? p).isSome

/-- Reads a number of up to four parts, of which the last fills the bytes that are left. -/
def ipv4? (l : List Char) : Option Nat := do
  let numbers ← (significantParts l).mapM numberPart?
  if numbers.length > 4 then none
  let last ← numbers.getLast?
  let leading := numbers.dropLast
  if leading.any (· > 255) ∨ last ≥ Nat.pow 256 (5 - numbers.length) then none
  let high := leading.zipIdx.foldl (fun n p => n + p.1 * Nat.pow 256 (3 - p.2)) 0
  some (high + last)

/-! ### Numbers of the sixth version -/

private def piece? (l : List Char) : Option Nat :=
  if l = [] ∨ l.length > 4 then none else digitsValue? 16 l

private def byte? (l : List Char) : Option Nat := do
  if l = [] ∨ !l.all Char.isDigit ∨ (l.length > 1 ∧ l.head? = some '0') then none
  let n ← digitsValue? 10 l
  if n > 255 then none else some n

private def dotted? (l : List Char) : Option (List Nat) := do
  match ← (parts l).mapM byte? with
  | [a, b, c, d] => some [256 * a + b, 256 * c + d]
  | _ => none

/-- Reads pieces between colons; the last may be written as bytes. -/
private def pieces? : List (List Char) → Option (List Nat)
  | [] => some []
  | [l] => if '.' ∈ l then dotted? l else (piece? l).map ([·])
  | l :: rest => do return (← piece? l) :: (← pieces? rest)

private def splitGap : List Char → Option (List Char × List Char)
  | ':' :: ':' :: l => some ([], l)
  | c :: l => (splitGap l).map fun p => (c :: p.1, p.2)
  | [] => none

private def side? (l : List Char) : Option (List Nat) :=
  if l = [] then some [] else pieces? (l.splitOn ':')

/-- Reads eight pieces, of which a double colon stands for at least one zero. -/
def ipv6? (l : List Char) : Option (List Nat) := do
  match splitGap l with
  | none =>
      let ps ← side? l
      if ps.length = 8 then some ps else none
  | some (before, after) =>
      if '.' ∈ before then none
      let a ← side? before
      let b ← side? after
      if a.length + b.length < 8 then
        some (a ++ List.replicate (8 - a.length - b.length) 0 ++ b)
      else none

/-! ### Reading and writing -/

def forbidden (c : Char) : Bool :=
  isControl c ||
    [' ', '#', '%', '/', ':', '<', '>', '?', '@', '[', '\\', ']', '^', '|'].contains c

private def bracketed? (l : List Char) : Option Host :=
  if l.getLast? = some ']' then (ipv6? l.dropLast).map ipv6 else none

def read? : List Char → Option Host
  | [] => none
  | '[' :: l => bracketed? l
  | l => do
      let text ← String.fromUTF8? ⟨(unescape l).toArray⟩
      let name ← Domain.ascii? text.toList
      if name = [] ∨ name.any forbidden then none
      if endsInNumber name then (ipv4? name).map ipv4 else some (domain (String.ofList name))

/-- Reads the host of any other scheme, where a name is kept as it is written. -/
def readPlain? : List Char → Option Host
  | [] => some empty
  | '[' :: l => bracketed? l
  | l =>
      if l.any (fun c => forbidden c && c != '%' && !isControl c || c.toNat == 0) then none
      else some (domain (String.ofList (escape isControl l)))

def bytes (address : Nat) : List Nat := [3, 2, 1, 0].map fun k => address / Nat.pow 256 k % 256

private def zeros (l : List Nat) : Nat := (l.takeWhile (· = 0)).length

/-- The place and length of the first longest run of zeros. -/
private def longestGap : Nat → List Nat → Nat × Nat
  | _, [] => (0, 0)
  | i, n :: l =>
      let rest := longestGap (i + 1) l
      let here := zeros (n :: l)
      if here ≥ rest.2 ∧ here > 0 then (i, here) else rest

private def colons (l : List Nat) : String := Text.separated ":" (l.map Text.hex)

/-- The pieces with the first longest run of two or more zeros as a double colon. -/
def ipv6Text (pieces : List Nat) : String :=
  let (start, length) := longestGap 0 pieces
  if length < 2 then colons pieces
  else colons (pieces.take start) ++ "::" ++ colons (pieces.drop (start + length))

def text : Host → String
  | empty => ""
  | domain name => name
  | ipv4 address => Text.separated "." ((bytes address).map toString)
  | ipv6 pieces => "[" ++ ipv6Text pieces ++ "]"

end Host

end LiveConfig.Url
