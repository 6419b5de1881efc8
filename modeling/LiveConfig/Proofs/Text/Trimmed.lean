import LiveConfig.Text.Blank
/-!
What trimming leaves of a text with blanks around it.
-/

set_option autoImplicit false

namespace LiveConfig.Text

variable {l before after : List Char} {c : Char}

theorem trimStart_append (h : before.all isBlank = true) (l : List Char) :
    trimStart (before ++ l) = trimStart l :=
  List.dropWhile_append_of_pos (List.all_eq_true.mp h)

theorem trimStart_visible (h : isBlank c = false) (l : List Char) : trimStart (c :: l) = c :: l := by
  simp [trimStart, h]

theorem trimStart_blank (h : l.all isBlank = true) : trimStart l = [] := by
  have hall := trimStart_append h []
  rwa [List.append_nil] at hall

theorem trimEnd_blank (h : l.all isBlank = true) : trimEnd l = [] := by
  induction l with
  | nil => rfl
  | cons c l ih =>
      obtain ⟨hc, hl⟩ := Bool.and_eq_true_iff.mp (List.all_cons ▸ h)
      simp [trimEnd, ih hl, hc]

theorem trimEnd_append (h : isBlank c = false) (hafter : after.all isBlank = true)
    (l : List Char) : trimEnd (l ++ c :: after) = l ++ [c] := by
  induction l with
  | nil => simp [trimEnd, trimEnd_blank hafter, h]
  | cons d l ih =>
      rw [List.cons_append, trimEnd, ih]
      cases l <;> rfl

theorem isBlank_of_isAlphanum (h : c.isAlphanum = true) : isBlank c = false := by
  have hranges : ((decide (65 ≤ c.val ∧ c.val ≤ 90) || (97 ≤ c.val && c.val ≤ 122)) ||
      (48 ≤ c.val && c.val ≤ 57)) = true := h
  simp only [Bool.or_eq_true, Bool.and_eq_true, decide_eq_true_eq, UInt32.le_iff_toNat_le] at hranges
  change ((65 ≤ c.toNat ∧ c.toNat ≤ 90) ∨ (97 ≤ c.toNat ∧ c.toNat ≤ 122)) ∨
    (48 ≤ c.toNat ∧ c.toNat ≤ 57) at hranges
  unfold isBlank
  generalize c.toNat = n at hranges
  simp only [Bool.or_eq_false_iff, Bool.and_eq_false_iff, beq_eq_false_iff_ne,
    decide_eq_false_iff_not]
  omega

theorem trimEnd_append_blank (h : after.all isBlank = true) (l : List Char) :
    trimEnd (l ++ after) = trimEnd l := by
  induction l with
  | nil => exact trimEnd_blank h
  | cons c l ih => rw [List.cons_append, trimEnd, ih, trimEnd]

/-- Blanks around a text are trimmed away. -/
theorem trim_padded (hbefore : before.all isBlank = true) (hafter : after.all isBlank = true)
    (l : List Char) : trim (String.ofList (before ++ l ++ after)) = trim (String.ofList l) := by
  have hparts : trimStart (l ++ after) =
      if (trimStart l).isEmpty then trimStart after else trimStart l ++ after :=
    List.dropWhile_append
  have hend : trimEnd (trimStart (l ++ after)) = trimEnd (trimStart l) := by
    rw [hparts]
    cases hstart : trimStart l with
    | nil => simp [trimStart_blank hafter]
    | cons c rest =>
        rw [if_neg (by simp), trimEnd_append_blank hafter]
  rw [trim, trim, String.toList_ofList, String.toList_ofList, List.append_assoc,
    trimStart_append hbefore, hend]

theorem blank_padded (hbefore : before.all isBlank = true) (hafter : after.all isBlank = true)
    (l : List Char) : blank (String.ofList (before ++ l ++ after)) = blank (String.ofList l) := by
  simp only [blank, String.toList_ofList, List.all_append, hbefore, hafter, Bool.true_and,
    Bool.and_true]

theorem trim_visible (hvisible : ∀ c ∈ l, isBlank c = false) :
    trim (String.ofList l) = String.ofList l := by
  rw [trim, String.toList_ofList]
  cases l with
  | nil => rfl
  | cons first rest =>
      have hstart := trimStart_visible (hvisible first List.mem_cons_self) rest
      have hlast := hvisible _ (List.getLast_mem (List.cons_ne_nil first rest))
      have hend := @trimEnd_append [] _ hlast rfl (first :: rest).dropLast
      rw [List.dropLast_concat_getLast] at hend
      rw [hstart, hend]

theorem blank_visible (hl : l ≠ []) (hvisible : ∀ c ∈ l, isBlank c = false) :
    blank (String.ofList l) = false := by
  rw [blank, String.toList_ofList, List.all_eq_false]
  exact ⟨l.head hl, List.head_mem hl, by simp [hvisible _ (List.head_mem hl)]⟩

end LiveConfig.Text
