import LiveConfig.Numeral.Integer
/-!
Decimal numerals read back.

A number is read from its decimal text, and leading zeros and a plus sign change nothing.
-/

set_option autoImplicit false

namespace LiveConfig.Numeral

theorem digit?_digitChar : ∀ d < 10, digit? (Nat.digitChar d) = some d := by
  decide

theorem readDigits_append (n : Nat) (first second : List Char) :
    readDigits n (first ++ second) = (readDigits n first).bind (readDigits · second) := by
  induction first generalizing n with
  | nil => rfl
  | cons c rest ih =>
      simp only [List.cons_append, readDigits]
      cases digit? c with
      | none => rfl
      | some d => exact ih (10 * n + d)

theorem readDigits_toDigits (n : Nat) : readDigits 0 (Nat.toDigits 10 n) = some n := by
  induction n using Nat.strongRecOn with
  | _ n ih =>
      by_cases hn : n < 10
      · rw [Nat.toDigits_of_lt_base hn]
        simp [readDigits, digit?_digitChar n hn]
      · have hbase : 10 ≤ n := Nat.le_of_not_lt hn
        have hsmaller : n / 10 < n := by omega
        have hdigit : n % 10 < 10 := Nat.mod_lt n (by decide)
        have hvalue : 10 * (n / 10) + n % 10 = n := by omega
        rw [Nat.toDigits_of_base_le (by decide) hbase, readDigits_append, ih _ hsmaller]
        simp [readDigits, digit?_digitChar _ hdigit, hvalue]

theorem readDigits_zeros (zeros : Nat) (l : List Char) :
    readDigits 0 (List.replicate zeros '0' ++ l) = readDigits 0 l := by
  induction zeros with
  | zero => rfl
  | succ zeros ih =>
      have hzero : digit? '0' = some 0 := by decide
      rw [List.replicate_succ, List.cons_append, readDigits, hzero]
      exact ih

theorem isDigit_of_mem_numeral {zeros n : Nat} {c : Char}
    (h : c ∈ List.replicate zeros '0' ++ Nat.toDigits 10 n) : c.isDigit = true := by
  rcases List.mem_append.mp h with h | h
  · rw [List.eq_of_mem_replicate h]
    decide
  · exact Nat.isDigit_of_mem_toDigits (by decide) (by decide) h

theorem numeral_cons (zeros n : Nat) : ∃ c rest,
    List.replicate zeros '0' ++ Nat.toDigits 10 n = c :: rest ∧ c ≠ '+' ∧ c ≠ '-' := by
  cases hl : List.replicate zeros '0' ++ Nat.toDigits 10 n with
  | nil =>
      have hempty := congrArg List.length hl
      have hpos := @Nat.length_toDigits_pos 10 n
      simp only [List.length_append, List.length_nil] at hempty
      omega
  | cons c rest =>
      have hdigit : c.isDigit = true :=
        @isDigit_of_mem_numeral zeros n c (hl ▸ List.mem_cons_self)
      refine ⟨c, rest, rfl, ?_, ?_⟩
      · rintro rfl
        exact absurd hdigit (by decide)
      · rintro rfl
        exact absurd hdigit (by decide)

theorem readNat?_numeral (zeros n : Nat) :
    readNat? (List.replicate zeros '0' ++ Nat.toDigits 10 n) = some n := by
  have hread : readDigits 0 (List.replicate zeros '0' ++ Nat.toDigits 10 n) = some n := by
    rw [readDigits_zeros, readDigits_toDigits]
  obtain ⟨c, rest, hl, -, -⟩ := numeral_cons zeros n
  rw [hl] at hread ⊢
  exact hread

/-- A number as it may be written: with a plus sign or without, and with zeros in front. -/
def spelled (plus : Bool) (zeros n : Nat) : List Char :=
  (if plus then ['+'] else []) ++ (List.replicate zeros '0' ++ Nat.toDigits 10 n)

variable {t : IntType}

theorem readInt?_bare {c : Char} {rest : List Char} (hplus : c ≠ '+') (hminus : c ≠ '-') :
    readInt? t (String.ofList (c :: rest)) =
      ((readNat? (c :: rest)).map Int.ofNat).bind fun n => if t.Holds n then some n else none := by
  unfold readInt?
  rw [String.toList_ofList]
  split
  · rename_i heq
    exact absurd (List.cons.inj heq).1 hplus
  · rename_i heq
    exact absurd (List.cons.inj heq).1 hminus
  · rfl

/-- However a number is spelled, it is read as itself, if the type holds it. -/
theorem readInt?_spelled (plus : Bool) (zeros n : Nat) :
    readInt? t (String.ofList (spelled plus zeros n)) =
      if t.Holds n then some (n : Int) else none := by
  have hnumeral := readNat?_numeral zeros n
  cases plus with
  | true => simp [readInt?, spelled, hnumeral]
  | false =>
      obtain ⟨c, rest, hl, hplus, hminus⟩ := numeral_cons zeros n
      simp only [spelled, Bool.false_eq_true, if_false, List.nil_append, hl, readInt?_bare hplus hminus]
      rw [← hl, hnumeral]
      rfl

theorem spelled_ne_nil (plus : Bool) (zeros n : Nat) : spelled plus zeros n ≠ [] := by
  obtain ⟨c, rest, hl, -, -⟩ := numeral_cons zeros n
  rw [spelled, hl]
  exact List.append_ne_nil_of_right_ne_nil _ (List.cons_ne_nil c rest)

theorem mem_spelled {plus : Bool} {zeros n : Nat} {c : Char} (h : c ∈ spelled plus zeros n) :
    c = '+' ∨ c.isDigit = true := by
  rcases List.mem_append.mp h with h | h
  · split at h
    · exact .inl (List.mem_singleton.mp h)
    · exact absurd h List.not_mem_nil
  · exact .inr (isDigit_of_mem_numeral h)

theorem toList_toString (n : Int) :
    (toString n).toList = (if n < 0 then ['-'] else []) ++ Nat.toDigits 10 n.natAbs := by
  cases n with
  | ofNat n =>
      have hsign : ¬Int.ofNat n < 0 := Int.not_lt.mpr (Int.natCast_nonneg n)
      rw [if_neg hsign]
      exact Nat.toList_repr
  | negSucc n =>
      rw [if_pos (Int.negSucc_lt_zero n)]
      change ("-" ++ (n + 1).repr).toList = _
      rw [String.toList_append, Nat.toList_repr]
      rfl

theorem readInt?_toString {n : Int} (h : t.Holds n) : readInt? t (toString n) = some n := by
  cases n with
  | ofNat n =>
      have hspelled : toString (Int.ofNat n) = String.ofList (spelled false 0 n) := rfl
      rw [hspelled, readInt?_spelled]
      exact if_pos h
  | negSucc n =>
      have hsigned : t.signed = true := by
        cases hunsigned : t.signed with
        | true => rfl
        | false =>
            have hmin := h.1
            simp only [IntType.min, hunsigned, Bool.false_eq_true, if_false] at hmin
            omega
      have hnumeral := readNat?_numeral 0 (n + 1)
      have hvalue : -((n : Int) + 1) = Int.negSucc n := rfl
      have htext : (toString (Int.negSucc n)).toList = '-' :: Nat.toDigits 10 (n + 1) := by
        rw [toList_toString, if_pos (Int.negSucc_lt_zero n)]
        rfl
      rw [List.replicate_zero, List.nil_append] at hnumeral
      rw [readInt?, htext]
      simp [hsigned, hnumeral, hvalue, h]

theorem toString_ne_nil (n : Int) : (toString n).toList ≠ [] := by
  have hpos := @Nat.length_toDigits_pos 10 n.natAbs
  intro hnil
  have hlength := congrArg List.length (hnil.symm.trans (toList_toString n))
  simp only [List.length_append, List.length_nil] at hlength
  omega

theorem mem_toString {n : Int} {c : Char} (h : c ∈ (toString n).toList) :
    c = '-' ∨ c.isDigit = true := by
  rw [toList_toString] at h
  rcases List.mem_append.mp h with h | h
  · split at h
    · exact .inl (List.mem_singleton.mp h)
    · exact absurd h List.not_mem_nil
  · exact .inr (Nat.isDigit_of_mem_toDigits (by decide) (by decide) h)

end LiveConfig.Numeral
