/-!
Texts beyond ASCII in letters, digits and hyphens of ASCII.

The characters of ASCII are written first, with a hyphen behind them if there are any. The others
follow in the order of their code points, each as one number: how many pairs of a code point and a
place are passed over since the one before. A number is written in digits of base 36, the lowest
first, and a digit below the threshold of its place ends it. The thresholds follow the size of the
numbers before. Numbers have 32 bits.
-/

set_option autoImplicit false

namespace LiveConfig.Url.Domain.Punycode

def digit (n : Nat) : Char := if n < 26 then Char.ofNat (97 + n) else Char.ofNat (22 + n)

def digitValue? (c : Char) : Option Nat :=
  if 'a' ≤ c ∧ c ≤ 'z' then some (c.toNat - 97)
  else if '0' ≤ c ∧ c ≤ '9' then some (c.toNat - 22)
  else none

/-- The threshold of a place, which counts 36 for each digit up to it. -/
def threshold (bias place : Nat) : Nat :=
  if place ≤ bias then 1 else if bias + 26 ≤ place then 26 else place - bias

theorem threshold_pos (bias place : Nat) : 1 ≤ threshold bias place := by
  unfold threshold
  split
  · omega
  · split <;> omega

/-- Divides a number until it is small; the quotient, and 36 for every division. -/
def scaled (n : Nat) : Nat × Nat :=
  if 455 < n then
    let (small, count) := scaled (n / 35)
    (small, count + 36)
  else (n, 0)
termination_by n
decreasing_by exact Nat.div_lt_self (by omega) (by omega)

/-- The bias after a number, when so many characters are in place; the first number is scaled down
further. -/
def biasAfter (isFirst : Bool) (number inPlace : Nat) : Nat :=
  let n := if isFirst then number / 700 else number / 2
  let (small, count) := scaled (n + n / inPlace)
  count + 36 * small / (small + 38)

/-! ### Writing -/

def digits (bias place n : Nat) : List Char :=
  let t := threshold bias place
  if n < t then [digit n]
  else digit (t + (n - t) % (36 - t)) :: digits bias (place + 36) ((n - t) / (36 - t))
termination_by n
decreasing_by
  have := threshold_pos bias place
  calc (n - threshold bias place) / (36 - threshold bias place)
      ≤ n - threshold bias place := Nat.div_le_self _ _
    _ < n := by omega

structure Writer where
  written : List Char
  /-- The pairs passed over since the character before. -/
  number : Nat
  bias : Nat
  /-- The characters in place. -/
  inPlace : Nat

/-- Passes a character on the way through the text for a code point; `start` characters were in
place at first. -/
def Writer.pass (start point : Nat) (w : Writer) (c : Char) : Writer :=
  if c.toNat < point then { w with number := w.number + 1 }
  else if c.toNat = point then
    ⟨w.written ++ digits w.bias 36 w.number, 0,
      biasAfter (w.inPlace = start) w.number (w.inPlace + 1), w.inPlace + 1⟩
  else w

/-- Writes the characters of a text at ascending code points, of which the first not yet passed is
`next`. -/
def Writer.write (l : List Char) (start : Nat) (next : Nat) : Writer → List Nat → Writer
  | w, [] => w
  | w, point :: rest =>
      let w := { w with number := w.number + (point - next) * (w.inPlace + 1) }
      let w := l.foldl (Writer.pass start point) w
      write l start (point + 1) { w with number := w.number + 1 } rest

def insertPoint (n : Nat) : List Nat → List Nat
  | [] => [n]
  | m :: l => if n < m then n :: m :: l else if n = m then m :: l else m :: insertPoint n l

def encode (l : List Char) : List Char :=
  let basic := l.filter (·.toNat < 128)
  let points := (l.map Char.toNat).foldl (fun acc n => if n < 128 then acc else insertPoint n acc) []
  let start := basic.length
  let w := Writer.write l start 128 ⟨[], 0, 72, start⟩ points
  basic ++ (if basic = [] then [] else ['-']) ++ w.written

/-! ### Reading -/

def greatest : Nat := 4294967295

/-- Reads a number onto a sum; `weight` is that of the digit at the place. -/
def readNumber (bias : Nat) : Nat → Nat → Nat → List Char → Option (Nat × List Char)
  | _, _, _, [] => none
  | place, weight, sum, c :: l => do
      let d ← digitValue? c
      let t := threshold bias place
      if sum + d * weight > greatest then none
      else if d < t then some (sum + d * weight, l)
      else if weight * (36 - t) > greatest then none
      else readNumber bias (place + 36) (weight * (36 - t)) (sum + d * weight) l

theorem length_of_readNumber {bias : Nat} {l rest : List Char} {n : Nat} :
    ∀ {place weight sum : Nat}, readNumber bias place weight sum l = some (n, rest) →
      rest.length < l.length := by
  induction l with
  | nil => simp [readNumber]
  | cons c l ih =>
    intro place weight sum h
    simp only [readNumber, Option.bind_eq_bind, Option.bind_eq_some_iff] at h
    obtain ⟨d, _, h⟩ := h
    split at h
    · simp at h
    · split at h
      · simp only [Option.some.injEq, Prod.mk.injEq] at h
        simp [← h.2]
      · split at h
        · simp at h
        · have := ih h
          simp only [List.length_cons]
          omega

def readCharacters (bias point place : Nat) (text : List Char) (l : List Char) :
    Option (List Char) :=
  if l = [] then some text
  else
    match _h : readNumber bias 36 1 place l with
    | none => none
    | some (n, rest) =>
        let size := text.length + 1
        let point := point + n / size
        if point.isValidChar then
          readCharacters (biasAfter (text.all (·.toNat < 128)) (n - place) size) point (n % size + 1)
            (text.insertIdx (n % size) (Char.ofNat point)) rest
        else none
termination_by l.length
decreasing_by exact length_of_readNumber _h

/-- The text of a written form. A hyphen at its start ends nothing, so it is no digit either. -/
def decode? (l : List Char) : Option (List Char) :=
  let basic := (l.reverse.dropWhile (· ≠ '-')).drop 1
  let rest := (l.reverse.takeWhile (· ≠ '-')).reverse
  if basic = [] then readCharacters 72 128 0 [] l
  else readCharacters 72 128 0 basic.reverse rest

example : encode "münchen".toList = "mnchen-3ya".toList := by decide +kernel
example : decode? "mnchen-3ya".toList = some "münchen".toList := by decide +kernel

end LiveConfig.Url.Domain.Punycode
