import LiveConfig.Json.Basic
import LiveConfig.Numeral.Integer
/-!
The tokens of a JSON text.

The lexer walks the characters once. Between tokens it skips blanks; inside a text it resolves
escapes, so a text token holds the characters that are meant. A number is the longest run of
characters that numbers are made of, and is refused if the run is no number.
-/

set_option autoImplicit false

namespace LiveConfig.Json

/-- A lexical unit of a JSON text. -/
inductive Token where
  | openList | closeList | openRecord | closeRecord | comma | colon
  | null
  | bool (b : Bool)
  | number (n : Number)
  | text (s : String)
deriving DecidableEq, Repr

def isSpace (c : Char) : Bool := c == ' ' || c == '\t' || c == '\n' || c == '\r'

def isNumberChar (c : Char) : Bool :=
  c.isDigit || c == '-' || c == '+' || c == '.' || c == 'e' || c == 'E'

def hexDigit? (c : Char) : Option Nat :=
  if '0' ≤ c ∧ c ≤ '9' then some (c.toNat - '0'.toNat)
  else if 'a' ≤ c ∧ c ≤ 'f' then some (c.toNat - 'a'.toNat + 10)
  else if 'A' ≤ c ∧ c ≤ 'F' then some (c.toNat - 'A'.toNat + 10)
  else none

def hexUnit? (a b c d : Char) : Option Nat := do
  return (((← hexDigit? a) * 16 + (← hexDigit? b)) * 16 + (← hexDigit? c)) * 16 + (← hexDigit? d)

def unescape? (c : Char) : Option Char :=
  if c = '"' ∨ c = '\\' ∨ c = '/' then some c
  else if c = 'b' then some (Char.ofNat 8)
  else if c = 'f' then some (Char.ofNat 12)
  else if c = 'n' then some '\n'
  else if c = 'r' then some '\r'
  else if c = 't' then some '\t'
  else none

private def natOf (l : List Char) : Nat := l.foldl (fun n c => 10 * n + (c.toNat - 48)) 0

/-- Takes digits into a significand below `2 ^ 64`: the digits that no longer fit are dropped and
counted. -/
private def gather (significand : Nat) : List Char → Nat × Nat
  | [] => (significand, 0)
  | c :: l =>
      let next := 10 * significand + (c.toNat - 48)
      if next < Width.w64.span then gather next l else (significand, l.length + 1)

private def real? (negative : Bool) (whole fraction : List Char) (exponent : Int) :
    Option Binary64 :=
  let (s, dropped) := gather 0 whole
  let (s, lost) := gather s fraction
  Binary64.ofDecimal negative s (dropped - (fraction.length - lost : Nat) + exponent)

/-- Reads a number: a sign, digits without a leading zero, a fraction and an exponent, of which
only the digits are required. A whole number beyond 64 bits becomes a real one, and so does minus
zero. -/
def number? (l : List Char) : Option Number := do
  let (negative, l) := match l with | '-' :: r => (true, r) | _ => (false, l)
  let whole := l.takeWhile Char.isDigit
  let l := l.dropWhile Char.isDigit
  if whole = [] ∨ (whole.head? = some '0' ∧ whole ≠ ['0']) then none
  let (fraction, l) :=
    match l with
    | '.' :: r => (some (r.takeWhile Char.isDigit), r.dropWhile Char.isDigit)
    | _ => (none, l)
  if fraction = some [] then none
  let exponent ←
    match l with
    | [] => some none
    | e :: r =>
        if e = 'e' ∨ e = 'E' then
          let (minus, ds) :=
            match r with
            | '-' :: ds => (true, ds)
            | '+' :: ds => (false, ds)
            | _ => (false, r)
          if ds = [] ∨ !ds.all Char.isDigit then none
          else some (some (if minus then -(natOf ds : Int) else natOf ds))
        else none
  match fraction, exponent with
  | none, none =>
      let n := natOf whole
      if !negative ∧ n < Width.w64.span then some (.whole n)
      else if negative ∧ 0 < n ∧ n ≤ Width.w64.span / 2 then some (.whole (-n))
      else (real? negative whole [] 0).map .real
  | fraction, exponent =>
      (real? negative whole (fraction.getD []) (exponent.getD 0)).map .real

private theorem natOf_toDigits (n : Nat) : natOf (Nat.toDigits 10 n) = n :=
  Nat.ofDigitChars_toDigits (by decide) (by decide)

private theorem takeWhile_toDigits (n : Nat) :
    (Nat.toDigits 10 n).takeWhile Char.isDigit = Nat.toDigits 10 n ∧
      (Nat.toDigits 10 n).dropWhile Char.isDigit = [] := by
  have hdigits : ∀ c ∈ Nat.toDigits 10 n, c.isDigit = true := fun c hc =>
    Nat.isDigit_of_mem_toDigits (by decide) (by decide) hc
  have htake : (Nat.toDigits 10 n ++ []).takeWhile Char.isDigit = Nat.toDigits 10 n ++ [] :=
    List.takeWhile_append_of_pos hdigits
  have hdrop : (Nat.toDigits 10 n ++ []).dropWhile Char.isDigit = [] :=
    List.dropWhile_append_of_pos hdigits
  rw [List.append_nil] at htake hdrop
  exact ⟨htake, hdrop⟩

private theorem zero_of_head?_toDigits {n : Nat} (h : (Nat.toDigits 10 n).head? = some '0') :
    n = 0 := by
  induction n using Nat.strongRecOn with
  | _ n ih =>
      by_cases hn : n < 10
      · have hdigit : ∀ d < 10, Nat.digitChar d = '0' → d = 0 := by decide
        rw [Nat.toDigits_of_lt_base hn] at h
        exact hdigit n hn (Option.some.inj h)
      · have hbase : 10 ≤ n := Nat.le_of_not_lt hn
        have hne : Nat.toDigits 10 (n / 10) ≠ [] := List.ne_nil_of_length_pos Nat.length_toDigits_pos
        rw [Nat.toDigits_of_base_le (by decide) hbase, List.head?_append,
          List.head?_eq_some_head hne, Option.some_or, ← List.head?_eq_some_head hne] at h
        have hzero := ih (n / 10) (by omega) h
        omega

private theorem toDigits_plain (n : Nat) : ¬(Nat.toDigits 10 n = [] ∨
    ((Nat.toDigits 10 n).head? = some '0' ∧ Nat.toDigits 10 n ≠ ['0'])) := by
  rintro (hnil | ⟨hhead, hne⟩)
  · exact List.ne_nil_of_length_pos Nat.length_toDigits_pos hnil
  · rw [zero_of_head?_toDigits hhead, Nat.toDigits_zero] at hne
    exact hne rfl

theorem number?_toDigits {n : Nat} (h : n < Width.w64.span) :
    number? (Nat.toDigits 10 n) = some (.whole n) := by
  obtain ⟨htake, hdrop⟩ := takeWhile_toDigits n
  have hsign : ∀ r, Nat.toDigits 10 n ≠ '-' :: r := by
    intro r hr
    have hdigit := Nat.isDigit_of_mem_toDigits (b := 10) (n := n) (c := '-') (by decide) (by decide)
      (hr ▸ List.mem_cons_self)
    exact absurd hdigit (by decide)
  unfold number?
  split
  rename_i negative l hl
  split at hl
  · rename_i r hr
    exact absurd hr (hsign r)
  · cases hl
    simp only [htake, hdrop, if_neg (toDigits_plain n), natOf_toDigits, h]
    rfl

theorem number?_minus {n : Nat} (hpos : 0 < n) (h : n ≤ Width.w64.span / 2) :
    number? ('-' :: Nat.toDigits 10 n) = some (.whole (-n)) := by
  obtain ⟨htake, hdrop⟩ := takeWhile_toDigits n
  simp only [number?, htake, hdrop, if_neg (toDigits_plain n), natOf_toDigits, hpos, h]
  rfl

private def word? (w : List Char) : Option Token :=
  if w = ['n', 'u', 'l', 'l'] then some .null
  else if w = ['t', 'r', 'u', 'e'] then some (.bool true)
  else if w = ['f', 'a', 'l', 's', 'e'] then some (.bool false)
  else none

/-- Where the lexer stands; characters read so far are kept last first. -/
inductive LexMode where
  | between
  | number (read : List Char)
  | word (read : List Char)
  | text (read : List Char)
deriving DecidableEq

def start? (c : Char) : Option (List Token × LexMode) :=
  if isSpace c then some ([], .between)
  else if c = '"' then some ([], .text [])
  else if c = '[' then some ([.openList], .between)
  else if c = ']' then some ([.closeList], .between)
  else if c = '{' then some ([.openRecord], .between)
  else if c = '}' then some ([.closeRecord], .between)
  else if c = ',' then some ([.comma], .between)
  else if c = ':' then some ([.colon], .between)
  else if c.isDigit ∨ c = '-' then some ([], .number [c])
  else if c.isLower then some ([], .word [c])
  else none

/-- The tokens of a text, or `none` if it has a part that is no token. -/
def lex : LexMode → List Char → Option (List Token)
  | .between, [] => some []
  | .between, c :: l => do
      let (ts, mode) ← start? c
      return ts ++ (← lex mode l)
  | .number read, [] => do return [.number (← number? read.reverse)]
  | .number read, c :: l =>
      if isNumberChar c then lex (.number (c :: read)) l
      else do
        let n ← number? read.reverse
        let (ts, mode) ← start? c
        return .number n :: ts ++ (← lex mode l)
  | .word read, [] => do return [← word? read.reverse]
  | .word read, c :: l =>
      if c.isLower then lex (.word (c :: read)) l
      else do
        let w ← word? read.reverse
        let (ts, mode) ← start? c
        return w :: ts ++ (← lex mode l)
  | .text _, [] => none
  | .text read, '"' :: l => do return .text (String.ofList read.reverse) :: (← lex .between l)
  | .text read, '\\' :: 'u' :: a :: b :: c :: d :: '\\' :: 'u' :: e :: f :: g :: h :: l => do
      let u ← hexUnit? a b c d
      if 0xD800 ≤ u ∧ u < 0xDC00 then
        let v ← hexUnit? e f g h
        if 0xDC00 ≤ v ∧ v < 0xE000 then
          let n := 0x10000 + (u - 0xD800) * 0x400 + (v - 0xDC00)
          lex (.text (Char.ofNat n :: read)) l
        else none
      else if 0xDC00 ≤ u ∧ u < 0xE000 then none
      else lex (.text (Char.ofNat u :: read)) ('\\' :: 'u' :: e :: f :: g :: h :: l)
  | .text read, '\\' :: 'u' :: a :: b :: c :: d :: l => do
      let u ← hexUnit? a b c d
      if 0xD800 ≤ u ∧ u < 0xE000 then none
      else lex (.text (Char.ofNat u :: read)) l
  | .text read, '\\' :: c :: l => do lex (.text ((← unescape? c) :: read)) l
  | .text _, ['\\'] => none
  | .text read, c :: l => if c.toNat < 32 then none else lex (.text (c :: read)) l

theorem lex_between (c : Char) (l : List Char) :
    lex .between (c :: l) = (start? c).bind fun r => (lex r.2 l).map (r.1 ++ ·) := by
  have hstep : lex .between (c :: l) =
      (start? c).bind fun r => (lex r.2 l).bind fun ts => some (r.1 ++ ts) := rfl
  simpa only [Option.map_eq_bind, Function.comp_def] using hstep

theorem lex_number_cons (read : List Char) (c : Char) (l : List Char) :
    lex (.number read) (c :: l) =
      if isNumberChar c then lex (.number (c :: read)) l
      else (number? read.reverse).bind fun n => (lex .between (c :: l)).map (.number n :: ·) := by
  have hstep : lex (.number read) (c :: l) =
      if isNumberChar c then lex (.number (c :: read)) l
      else (number? read.reverse).bind fun n => (start? c).bind fun r =>
        (lex r.2 l).bind fun ts => some (.number n :: r.1 ++ ts) := rfl
  simpa only [lex_between, Option.map_bind, Option.map_eq_bind, Function.comp_def,
    Option.bind_assoc, Option.bind_some, List.cons_append] using hstep

theorem lex_word_cons (read : List Char) (c : Char) (l : List Char) :
    lex (.word read) (c :: l) =
      if c.isLower then lex (.word (c :: read)) l
      else (word? read.reverse).bind fun t => (lex .between (c :: l)).map (t :: ·) := by
  have hstep : lex (.word read) (c :: l) =
      if c.isLower then lex (.word (c :: read)) l
      else (word? read.reverse).bind fun t => (start? c).bind fun r =>
        (lex r.2 l).bind fun ts => some (t :: r.1 ++ ts) := rfl
  simpa only [lex_between, Option.map_bind, Option.map_eq_bind, Function.comp_def,
    Option.bind_assoc, Option.bind_some, List.cons_append] using hstep

def tokens? (s : String) : Option (List Token) := lex .between s.toList

end LiveConfig.Json
