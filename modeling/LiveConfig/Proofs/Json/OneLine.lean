import LiveConfig.Json.Printer
import Mathlib.Data.List.Basic
import Mathlib.Tactic.SplitIfs
/-!
The compact text of a value stands on one line.

A text is written without its control characters and everything else is written in visible ones, so
whatever a value holds, its text has no control character. In UTF-8 the byte of the line feed stands
for the line feed only.
-/

set_option autoImplicit false

namespace LiveConfig

/-! ### Characters -/

def NoControl (l : List Char) : Prop := ∀ c ∈ l, 32 ≤ c.toNat

instance (l : List Char) : Decidable (NoControl l) :=
  List.decidableBAll (fun c : Char => 32 ≤ c.toNat) l

namespace NoControl

variable {l m : List Char}

@[simp] theorem nil : NoControl [] := nofun

@[simp] theorem cons_iff {c : Char} : NoControl (c :: l) ↔ 32 ≤ c.toNat ∧ NoControl l :=
  List.forall_mem_cons

@[simp] theorem append_iff : NoControl (l ++ m) ↔ NoControl l ∧ NoControl m :=
  List.forall_mem_append

theorem of_subset (h : NoControl m) (hl : ∀ c ∈ l, c ∈ m) : NoControl l :=
  fun c hc => h c (hl c hc)

theorem not_mem_newline (h : NoControl l) : '\n' ∉ l := fun hc =>
  absurd (h '\n' hc) (by decide)

theorem replicate {c : Char} (h : 32 ≤ c.toNat) (n : Nat) : NoControl (List.replicate n c) := by
  intro d hd
  rw [List.eq_of_mem_replicate hd]
  exact h

theorem toDigits (n : Nat) : NoControl (Nat.toDigits 10 n) := by
  intro c hc
  have hdigit := Nat.isDigit_of_mem_toDigits (by decide) (by decide) hc
  have hrange : 48 ≤ c.toNat ∧ c.toNat ≤ 57 := by
    simpa [Char.isDigit, UInt32.le_iff_toNat_le] using hdigit
  omega

theorem nat_text (n : Nat) : NoControl n.repr.toList := by
  rw [Nat.repr, String.toList_ofList]
  exact toDigits n

theorem int_text (n : Int) : NoControl (toString n).toList := by
  cases n with
  | ofNat m => exact nat_text m
  | negSucc m =>
      change NoControl ("-" ++ (m + 1).repr).toList
      rw [String.toList_append, append_iff]
      exact ⟨by decide, nat_text (m + 1)⟩

end NoControl

theorem NoControl.scientific {ds : List Char} (hdigits : NoControl ds) {exponent : String}
    (hexponent : NoControl exponent.toList) :
    NoControl (match ds with
      | [d] => String.ofList [d] ++ "e" ++ exponent
      | d :: rest => String.ofList (d :: '.' :: rest) ++ "e" ++ exponent
      | [] => "0.0").toList := by
  split
  · simp only [String.toList_append, String.toList_ofList, append_iff]
    exact ⟨⟨hdigits, by decide⟩, hexponent⟩
  · obtain ⟨hfirst, hrest⟩ := cons_iff.mp hdigits
    simp only [String.toList_append, String.toList_ofList, append_iff, cons_iff]
    exact ⟨⟨⟨hfirst, by decide, hrest⟩, by decide⟩, hexponent⟩
  · decide

theorem Binary64.noControl_text (x : Binary64) : NoControl x.text.toList := by
  have hsign : NoControl (if x.negative then "-" else "").toList := by
    split <;> decide
  have hpoint : 32 ≤ '.'.toNat := by decide
  have hzero : 32 ≤ '0'.toNat := by decide
  rw [text]
  generalize (if x.negative then "-" else "") = sign at hsign ⊢
  by_cases hmantissa : x.mantissa = 0
  · rw [if_pos hmantissa, String.toList_append, NoControl.append_iff]
    exact ⟨hsign, by decide⟩
  rw [if_neg hmantissa]
  -- the shortest digits, and the digits without zeros at their end
  split
  split
  rename_i c p _
  have hdigits := NoControl.toDigits c
  generalize Nat.toDigits 10 c = ds at hdigits ⊢
  rw [String.toList_append, NoControl.append_iff]
  refine ⟨hsign, ?_⟩
  split
  · simp only [String.toList_append, String.toList_ofList, NoControl.append_iff]
    exact ⟨⟨hdigits, .replicate hzero _⟩, by decide⟩
  split
  · simp only [String.toList_ofList, NoControl.append_iff, NoControl.cons_iff]
    exact ⟨hdigits.of_subset fun _ => List.mem_of_mem_take, hpoint,
      hdigits.of_subset fun _ => List.mem_of_mem_drop⟩
  split
  · simp only [String.toList_ofList, NoControl.append_iff, NoControl.cons_iff]
    exact ⟨hzero, hpoint, .replicate hzero _, hdigits⟩
  · refine hdigits.scientific ?_
    rw [String.toList_append, NoControl.append_iff]
    refine ⟨?_, .int_text _⟩
    split <;> decide

/-! ### Values -/

namespace Json

theorem le_digitChar : ∀ n < 16, 32 ≤ (Nat.digitChar n).toNat := by
  decide

theorem noControl_escape (c : Char) : NoControl (escape c) := by
  unfold escape
  split_ifs with hquote hslash hback htab hline hfeed hreturn hcontrol
  · decide
  · decide
  · decide
  · decide
  · decide
  · decide
  · decide
  · have hhigh := le_digitChar (c.toNat / 16) (by omega)
    have hlow := le_digitChar (c.toNat % 16) (by omega)
    simp only [NoControl.cons_iff]
    exact ⟨by decide, by decide, by decide, by decide, hhigh, hlow, .nil⟩
  · exact NoControl.cons_iff.mpr ⟨Nat.le_of_not_lt hcontrol, .nil⟩

theorem noControl_renderText (s : String) : NoControl (renderText s) := by
  have hbody : NoControl (s.toList.flatMap escape) := by
    intro c hc
    obtain ⟨d, -, hd⟩ := List.mem_flatMap.mp hc
    exact noControl_escape d c hd
  rw [renderText, NoControl.append_iff, NoControl.cons_iff]
  exact ⟨⟨by decide, hbody⟩, by decide⟩

theorem Number.noControl_render (n : Number) : NoControl n.render := by
  cases n with
  | whole n => exact .int_text n
  | real x => exact x.noControl_text

mutual

theorem noControl_render : ∀ j : Json, NoControl (render j)
  | .null => by rw [render]; decide
  | .bool true => by rw [render]; decide
  | .bool false => by rw [render]; decide
  | .number n => by
      rw [render]
      exact n.noControl_render
  | .text s => by
      rw [render]
      exact noControl_renderText s
  | .list items => by
      rw [render, NoControl.append_iff, NoControl.cons_iff]
      exact ⟨⟨by decide, noControl_renderItems true items⟩, by decide⟩
  | .record ms => by
      rw [render, NoControl.append_iff, NoControl.cons_iff]
      exact ⟨⟨by decide, noControl_renderMembers true ms⟩, by decide⟩

theorem noControl_renderItems (first : Bool) : ∀ l : List Json, NoControl (renderItems first l)
  | [] => by
      rw [renderItems]
      exact .nil
  | j :: items => by
      rw [renderItems, NoControl.append_iff, NoControl.append_iff]
      refine ⟨?_, noControl_render j, noControl_renderItems false items⟩
      cases first <;> decide

theorem noControl_renderMembers (first : Bool) :
    ∀ l : List (String × Json), NoControl (renderMembers first l)
  | [] => by
      rw [renderMembers]
      exact .nil
  | (n, j) :: ms => by
      rw [renderMembers, NoControl.append_iff, NoControl.append_iff, NoControl.cons_iff,
        NoControl.append_iff]
      refine ⟨?_, noControl_renderText n, by decide, noControl_render j,
        noControl_renderMembers false ms⟩
      cases first <;> decide

end

theorem noControl_compact (j : Json) : NoControl j.compact.toList := by
  rw [compact, String.toList_ofList]
  exact noControl_render j

end Json

/-! ### Bytes -/

/-- The bytes end a line and hold no other end of one. -/
def OneLine (bytes : ByteArray) : Prop :=
  ∃ body : List UInt8, bytes.data.toList = body ++ [10] ∧ 10 ∉ body

theorem not_mem_utf8EncodeChar {c : Char} (h : c ≠ '\n') : 10 ∉ String.utf8EncodeChar c := by
  have hval : c.val.toNat ≠ 10 := fun heq => h (Char.ext (UInt32.toNat_inj.mp heq))
  have hbyte : ∀ n < 256, n ≠ 10 → (10 : UInt8) ≠ UInt8.ofNat n := by
    intro n hn hne heq
    have heq := congrArg UInt8.toNat heq
    rw [UInt8.toNat_ofNat_of_lt' hn] at heq
    exact hne heq.symm
  unfold String.utf8EncodeChar
  extract_lets v
  split_ifs with hone htwo hthree <;>
    simp only [List.mem_cons, List.not_mem_nil, or_false, not_or]
  · exact hbyte _ (by omega) hval
  · exact ⟨hbyte _ (by omega) (by omega), hbyte _ (by omega) (by omega)⟩
  · exact ⟨hbyte _ (by omega) (by omega), hbyte _ (by omega) (by omega),
      hbyte _ (by omega) (by omega)⟩
  · exact ⟨hbyte _ (by omega) (by omega), hbyte _ (by omega) (by omega),
      hbyte _ (by omega) (by omega), hbyte _ (by omega) (by omega)⟩

theorem bytes_of_text (s : String) :
    s.toUTF8.data.toList = s.toList.flatMap String.utf8EncodeChar := by
  rw [String.toUTF8_eq_toByteArray, ← String.utf8Encode_toList, List.utf8Encode,
    List.data_toByteArray]

theorem oneLine_of_noControl {s : String} (h : NoControl s.toList) :
    OneLine (s ++ "\n").toUTF8 := by
  refine ⟨s.toList.flatMap String.utf8EncodeChar, ?_, ?_⟩
  · rw [bytes_of_text, String.toList_append, List.flatMap_append]
    rfl
  · intro hmem
    obtain ⟨c, hc, hbyte⟩ := List.mem_flatMap.mp hmem
    refine not_mem_utf8EncodeChar ?_ hbyte
    rintro rfl
    exact h.not_mem_newline hc

end LiveConfig
