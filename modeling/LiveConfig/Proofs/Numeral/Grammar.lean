import LiveConfig.Proofs.Numeral.Decimal
import LiveConfig.Schema
import Mathlib.Data.List.Induction
import Mathlib.Data.Nat.Digits.Defs
/-!
Which texts are integers of a type.

A text is read as the integer it spells if the type holds that integer, and as nothing otherwise.
Reading in steps that never leave the type comes to the same: digits lead away from zero, so what
ends inside the type has been inside it all along.
-/

set_option autoImplicit false

namespace LiveConfig.Numeral

/-! ### Texts and what they denote -/

def IsDigits (l : List Char) : Prop := l ≠ [] ∧ ∀ c ∈ l, c.isDigit = true

def placeValue (l : List Char) : Nat := Nat.ofDigits 10 (l.reverse.map fun c => c.toNat - '0'.toNat)

/-- An integer and a text for it: a sign, which may be left out and is a minus for signed types only,
and digits. -/
inductive Spells (t : IntType) : List Char → Int → Prop
  | bare {l : List Char} : IsDigits l → Spells t l (placeValue l)
  | plus {l : List Char} : IsDigits l → Spells t ('+' :: l) (placeValue l)
  | minus {l : List Char} : t.signed = true → IsDigits l → Spells t ('-' :: l) (-placeValue l)

variable {t : IntType} {l : List Char} {n : Int}

theorem digit?_eq_some_iff {c : Char} {d : Nat} :
    digit? c = some d ↔ c.isDigit = true ∧ d = c.toNat - '0'.toNat := by
  have hdigit : ('0' ≤ c ∧ c ≤ '9') ↔ c.isDigit = true := by
    rw [Char.isDigit, Bool.and_eq_true, decide_eq_true_eq, decide_eq_true_eq]
    exact Iff.rfl
  rw [digit?]
  by_cases h : '0' ≤ c ∧ c ≤ '9'
  · rw [if_pos h, Option.some.injEq, ← hdigit, eq_comm]
    exact (and_iff_right h).symm
  · rw [if_neg h, ← hdigit]
    exact iff_of_false nofun fun hd => h hd.1

theorem placeValue_concat (l : List Char) (c : Char) :
    placeValue (l ++ [c]) = 10 * placeValue l + (c.toNat - '0'.toNat) := by
  rw [placeValue, List.reverse_concat, List.map_cons, Nat.ofDigits_cons, placeValue]
  exact Nat.add_comm _ _

theorem readDigits_eq_some_iff {k : Nat} :
    readDigits 0 l = some k ↔ (∀ c ∈ l, c.isDigit = true) ∧ k = placeValue l := by
  induction l using List.reverseRecOn generalizing k with
  | nil =>
      have hzero : placeValue [] = 0 := rfl
      rw [readDigits, hzero, Option.some.injEq, eq_comm]
      exact (and_iff_right (List.forall_mem_nil _)).symm
  | append_singleton l c ih =>
      have hlast : ∀ j, readDigits j [c] = some k ↔
          c.isDigit = true ∧ k = 10 * j + (c.toNat - '0'.toNat) := by
        intro j
        rw [readDigits]
        constructor
        · intro h
          obtain ⟨d, hd, hk⟩ := Option.bind_eq_some_iff.mp h
          obtain ⟨hdigit, rfl⟩ := digit?_eq_some_iff.mp hd
          exact ⟨hdigit, (Option.some.inj hk).symm⟩
        · rintro ⟨hdigit, rfl⟩
          have hd := digit?_eq_some_iff.mpr ⟨hdigit, rfl⟩
          rw [hd]
          rfl
      rw [readDigits_append, Option.bind_eq_some_iff, placeValue_concat, List.forall_mem_append,
        List.forall_mem_singleton]
      constructor
      · rintro ⟨j, hj, hk⟩
        obtain ⟨hl, rfl⟩ := ih.mp hj
        obtain ⟨hc, rfl⟩ := (hlast _).mp hk
        exact ⟨⟨hl, hc⟩, rfl⟩
      · rintro ⟨⟨hl, hc⟩, rfl⟩
        exact ⟨_, ih.mpr ⟨hl, rfl⟩, (hlast _).mpr ⟨hc, rfl⟩⟩

theorem readNat?_eq_some_iff {k : Nat} :
    readNat? l = some k ↔ IsDigits l ∧ k = placeValue l := by
  cases l with
  | nil => simp [readNat?, IsDigits]
  | cons c l =>
      have hne : c :: l ≠ [] := List.cons_ne_nil c l
      rw [readNat?, readDigits_eq_some_iff, IsDigits, and_iff_right hne]
      exact hne

theorem not_isDigits_of_sign {c : Char} (h : c.isDigit = false) : ¬IsDigits (c :: l) := by
  intro hl
  rw [hl.2 c List.mem_cons_self] at h
  cases h

/-! ### Signs -/

def unsign (t : IntType) : List Char → Option (Bool × List Char)
  | '+' :: l => some (false, l)
  | '-' :: l => if t.signed then some (true, l) else none
  | l => some (false, l)

def withSign (negative : Bool) (k : Nat) : Int := if negative then -k else k

@[simp] theorem withSign_false (k : Nat) : withSign false k = k := rfl

@[simp] theorem withSign_true (k : Nat) : withSign true k = -k := rfl

theorem unsign_of_isDigits (h : IsDigits l) : unsign t l = some (false, l) := by
  unfold unsign
  split
  · exact absurd h (not_isDigits_of_sign (by decide))
  · exact absurd h (not_isDigits_of_sign (by decide))
  · rfl

theorem spells_iff : Spells t l n ↔ ∃ negative ds, unsign t l = some (negative, ds) ∧
    IsDigits ds ∧ n = withSign negative (placeValue ds) := by
  constructor
  · rintro (hl | hl | ⟨hsigned, hl⟩)
    · exact ⟨false, _, unsign_of_isDigits hl, hl, rfl⟩
    · exact ⟨false, _, rfl, hl, rfl⟩
    · exact ⟨true, _, if_pos hsigned, hl, rfl⟩
  · rintro ⟨negative, ds, hunsign, hds, rfl⟩
    unfold unsign at hunsign
    split at hunsign
    · cases hunsign
      exact .plus hds
    · obtain ⟨hsigned, hunsign⟩ := Option.ite_none_right_eq_some.mp hunsign
      cases hunsign
      exact .minus hsigned hds
    · cases hunsign
      exact .bare hds

def hold? (t : IntType) (n : Int) : Option Int := if t.Holds n then some n else none

theorem hold?_eq_some_iff {k : Int} : hold? t k = some n ↔ t.Holds n ∧ k = n := by
  rw [hold?, Option.ite_none_right_eq_some, Option.some.injEq]
  constructor
  · rintro ⟨hk, rfl⟩
    exact ⟨hk, rfl⟩
  · rintro ⟨hn, rfl⟩
    exact ⟨hn, rfl⟩

theorem readInt?_eq (s : String) : readInt? t s =
    (unsign t s.toList).bind fun r => (readNat? r.2).bind fun k => hold? t (withSign r.1 k) := by
  unfold readInt?
  split
  · rename_i l hs
    rw [hs, unsign]
    cases hread : readNat? l <;> simp [hread, withSign, hold?]
  · rename_i l hs
    rw [hs, unsign]
    by_cases hsigned : t.signed = true
    · cases hread : readNat? l <;> simp [hsigned, hread, withSign, hold?]
    · simp [hsigned]
  · rename_i hplus hminus
    rw [unsign.eq_3 t _ hplus hminus]
    cases hread : readNat? s.toList <;> simp [hread, withSign, hold?]

theorem readInt?_eq_some_iff {s : String} :
    readInt? t s = some n ↔ Spells t s.toList n ∧ t.Holds n := by
  simp only [readInt?_eq, Option.bind_eq_some_iff, Prod.exists, readNat?_eq_some_iff,
    hold?_eq_some_iff, spells_iff]
  constructor
  · rintro ⟨negative, ds, hunsign, k, ⟨hds, rfl⟩, hn, rfl⟩
    exact ⟨⟨negative, ds, hunsign, hds, rfl⟩, hn⟩
  · rintro ⟨⟨negative, ds, hunsign, hds, rfl⟩, hn⟩
    exact ⟨negative, ds, hunsign, _, ⟨hds, rfl⟩, hn, rfl⟩

/-! ### Reading inside the type -/

/-- One digit more, in two steps that must both stay inside the type; the digits of a negative number
are taken away. -/
def push? (t : IntType) (negative : Bool) (n : Int) (c : Char) : Option Int := do
  let d ← digit? c
  let scaled ← hold? t (n * 10)
  hold? t (if negative then scaled - d else scaled + d)

/-- Reads an integer digit by digit without ever leaving the type. -/
def readInside? (t : IntType) (s : String) : Option Int := do
  let (negative, ds) ← unsign t s.toList
  if ds = [] then none else ds.foldlM (push? t negative) 0

theorem holds_zero (t : IntType) : t.Holds 0 := by
  obtain ⟨signed, width⟩ := t
  cases signed <;> cases width <;> decide

theorem holds_withSign_of_le {negative : Bool} {j k : Nat} (hle : j ≤ k)
    (h : t.Holds (withSign negative k)) : t.Holds (withSign negative j) := by
  obtain ⟨hmin, hmax⟩ := h
  obtain ⟨hminZero, hmaxZero⟩ := holds_zero t
  cases negative with
  | false =>
      rw [withSign_false] at hmin hmax ⊢
      exact ⟨by omega, by omega⟩
  | true =>
      rw [withSign_true] at hmin hmax ⊢
      exact ⟨by omega, by omega⟩

theorem le_of_readDigits {j k : Nat} (h : readDigits j l = some k) : j ≤ k := by
  induction l generalizing j with
  | nil => exact Nat.le_of_eq (Option.some.inj h)
  | cons c l ih =>
      obtain ⟨d, -, hrest⟩ := Option.bind_eq_some_iff.mp h
      have hle := ih hrest
      omega

theorem push?_withSign {negative : Bool} {k : Nat} {c : Char} :
    push? t negative (withSign negative k) c =
      (digit? c).bind fun d => hold? t (withSign negative (10 * k + d)) := by
  rw [push?]
  cases hd : digit? c with
  | none => rfl
  | some d =>
      have hscaled : withSign negative k * 10 = withSign negative (10 * k) := by
        cases negative with
        | false =>
            rw [withSign_false, withSign_false]
            omega
        | true =>
            rw [withSign_true, withSign_true]
            omega
      have hnext : (if negative then withSign negative (10 * k) - (d : Int)
          else withSign negative (10 * k) + d) = withSign negative (10 * k + d) := by
        cases negative with
        | false =>
            rw [withSign_false, withSign_false, if_neg Bool.false_ne_true]
            omega
        | true =>
            rw [withSign_true, withSign_true, if_pos rfl]
            omega
      simp only [Option.bind_eq_bind, Option.bind_some, hscaled]
      by_cases h : t.Holds (withSign negative (10 * k))
      · rw [hold?, if_pos h, Option.bind_some, hnext]
      · -- the digit leads further out of the type
        have hout : ¬t.Holds (withSign negative (10 * k + d)) := fun hin =>
          h (holds_withSign_of_le (Nat.le_add_right _ d) hin)
        rw [hold?, if_neg h, hold?, if_neg hout]
        rfl

/-- From inside the type, reading on inside it comes to the number that the digits make, if the type
holds that. -/
theorem foldlM_push? {negative : Bool} {k : Nat} (h : t.Holds (withSign negative k)) :
    l.foldlM (push? t negative) (withSign negative k) =
      (readDigits k l).bind fun k => hold? t (withSign negative k) := by
  induction l generalizing k with
  | nil => exact (if_pos h).symm
  | cons c l ih =>
      rw [List.foldlM_cons, push?_withSign, readDigits]
      cases hd : digit? c with
      | none => rfl
      | some d =>
          simp only [Option.bind_eq_bind, Option.bind_some]
          by_cases hnext : t.Holds (withSign negative (10 * k + d))
          · rw [hold?, if_pos hnext, Option.bind_some, ih hnext]
          · rw [hold?, if_neg hnext, Option.bind_none]
            -- whatever follows, the number does not come back into the type
            symm
            rw [Option.bind_eq_none_iff]
            intro k' hk'
            exact if_neg fun hin => hnext (holds_withSign_of_le (le_of_readDigits hk') hin)

theorem readInside?_eq (s : String) : readInside? t s = readInt? t s := by
  rw [readInside?, readInt?_eq]
  cases unsign t s.toList with
  | none => rfl
  | some r =>
      obtain ⟨negative, ds⟩ := r
      have hstart : withSign negative 0 = 0 := by cases negative <;> rfl
      simp only [Option.bind_eq_bind, Option.bind_some]
      cases ds with
      | nil => rfl
      | cons c ds =>
          have hfold := @foldlM_push? t (c :: ds) negative 0 (hstart ▸ holds_zero t)
          rw [hstart] at hfold
          rw [if_neg (List.cons_ne_nil c ds), hfold, readNat?]
          exact List.cons_ne_nil c ds

/-! ### Zeros in front -/

theorem readNat?_zeros (zeros : Nat) (h : IsDigits l) :
    readNat? (List.replicate zeros '0' ++ l) = readNat? l := by
  have hread : ∀ {l : List Char}, l ≠ [] → readNat? l = readDigits 0 l := by
    intro l hl
    rw [readNat?]
    exact hl
  rw [hread (List.append_ne_nil_of_right_ne_nil _ h.1), hread h.1, readDigits_zeros]

theorem IsDigits.zeros (h : IsDigits l) (zeros : Nat) :
    IsDigits (List.replicate zeros '0' ++ l) := by
  refine ⟨List.append_ne_nil_of_right_ne_nil _ h.1, fun c hc => ?_⟩
  rcases List.mem_append.mp hc with hc | hc
  · rw [List.eq_of_mem_replicate hc]
    decide
  · exact h.2 c hc

theorem readInt?_zeros {sign : List Char} (hsign : sign ∈ [[], ['+'], ['-']]) (zeros : Nat)
    (h : IsDigits l) : readInt? t (String.ofList (sign ++ (List.replicate zeros '0' ++ l))) =
      readInt? t (String.ofList (sign ++ l)) := by
  rw [readInt?_eq, readInt?_eq, String.toList_ofList, String.toList_ofList]
  simp only [List.mem_cons, List.not_mem_nil, or_false] at hsign
  rcases hsign with rfl | rfl | rfl
  · rw [List.nil_append, List.nil_append, unsign_of_isDigits h, unsign_of_isDigits (h.zeros zeros)]
    simp only [Option.bind_some, readNat?_zeros zeros h]
  · simp only [List.singleton_append, unsign, Option.bind_some, readNat?_zeros zeros h]
  · cases hsigned : t.signed <;>
      simp only [List.singleton_append, unsign, hsigned, Bool.false_eq_true, if_true, if_false,
        Option.bind_none, Option.bind_some, readNat?_zeros zeros h]

end LiveConfig.Numeral

namespace LiveConfig

open Numeral

/-- A field of an integer type takes the texts that spell an integer of its range, and each as that
integer. It takes the same texts when every step stays inside the type, so nothing wraps around.
Zeros behind the sign change nothing, and the decimal text of every integer of the range is taken. -/
theorem FieldType.read_int_iff (t : IntType) :
    (∀ s n, (int t).read? s = some n ↔ Spells t s.toList n ∧ t.min ≤ n ∧ n ≤ t.max) ∧
      (∀ s, (int t).read? s = readInside? t s) ∧
      (∀ sign ∈ [[], ['+'], ['-']], ∀ zeros digits, IsDigits digits →
        (int t).read? (String.ofList (sign ++ (List.replicate zeros '0' ++ digits))) =
          (int t).read? (String.ofList (sign ++ digits))) ∧
      ∀ n : Int, t.min ≤ n → n ≤ t.max → (int t).read? (toString n) = some n := by
  refine ⟨fun s n => readInt?_eq_some_iff, fun s => (readInside?_eq s).symm, ?_, ?_⟩
  · intro sign hsign zeros digits hdigits
    exact readInt?_zeros hsign zeros hdigits
  · intro n hmin hmax
    exact readInt?_toString ⟨hmin, hmax⟩

example : IntType.all.map (fun t => (t.name, t.min, t.max)) =
    [("i8", -128, 127), ("u8", 0, 255), ("i16", -32768, 32767), ("u16", 0, 65535),
      ("i32", -2147483648, 2147483647), ("u32", 0, 4294967295),
      ("i64", -9223372036854775808, 9223372036854775807), ("u64", 0, 18446744073709551615),
      ("isize", -9223372036854775808, 9223372036854775807),
      ("usize", 0, 18446744073709551615)] := by decide

/-- The two ends of the range of signed bytes, one with zeros in front, and what lies behind them. -/
theorem FieldType.read_int_iff_ends :
    let t : IntType := ⟨true, .w8⟩
    IsDigits ['1', '2', '8'] ∧ t.min ≤ -128 ∧ -128 ≤ t.max ∧
      (int t).read? "-000128" = some (-128) ∧ (int t).read? "127" = some 127 ∧
      (int t).read? "128" = none ∧ (int t).read? "-129" = none ∧ (int t).read? "+" = none := by
  intro t
  obtain ⟨-, hinside, hzeros, htext⟩ := read_int_iff t
  have hdigits : IsDigits ['1', '2', '8'] := ⟨by decide, List.all_eq_true.mp (by decide)⟩
  have hmin : t.min ≤ -128 := by decide
  have hmax : -128 ≤ t.max := by decide
  have hleast := (hzeros ['-'] (by decide) 3 _ hdigits).trans (htext (-128) hmin hmax)
  exact ⟨hdigits, hmin, hmax, hleast, htext 127 (by decide) (by decide),
    (hinside _).trans (by decide), (hinside _).trans (by decide), (hinside _).trans (by decide)⟩

end LiveConfig
