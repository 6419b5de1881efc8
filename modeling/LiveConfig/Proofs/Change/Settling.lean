import LiveConfig.Change.Debounce
import Mathlib.Data.List.Basic
/-!
The kind that a burst settles on.

A creation or a removal decides what a burst comes to whatever was before, and writing decides
nothing. So a burst that was cut short settles on a removal only if the whole of it does.
-/

set_option autoImplicit false

namespace LiveConfig

namespace ChangeKind

/-- The kind of a burst, if there is one, after one more occurrence. -/
def join : Option ChangeKind → ChangeKind → Option ChangeKind
  | none, kind => some kind
  | some before, kind => some (before.followedBy kind)

def settle (before : Option ChangeKind) (later : List ChangeKind) : Option ChangeKind :=
  later.foldl join before

theorem settle_append (before : Option ChangeKind) (first second : List ChangeKind) :
    settle before (first ++ second) = settle (settle before first) second :=
  List.foldl_append

theorem join_of_ne_modify {kind : ChangeKind} (h : kind ≠ .modify) (before : Option ChangeKind) :
    join before kind = some kind := by
  cases kind with
  | modify => exact absurd rfl h
  | create => rcases before with _ | _ | _ | _ <;> rfl
  | remove => rcases before with _ | _ | _ | _ <;> rfl

theorem join_modify_ne_remove {before : Option ChangeKind} (h : before ≠ some .remove) :
    join before .modify ≠ some .remove := by
  rcases before with _ | _ | _ | _
  · exact nofun
  · exact nofun
  · exact nofun
  · exact absurd rfl h

theorem settle_ne_remove {later : List ChangeKind} (hlater : .remove ∉ later)
    {before : Option ChangeKind} (h : before ≠ some .remove) :
    settle before later ≠ some .remove := by
  induction later generalizing before with
  | nil => exact h
  | cons kind rest ih =>
      refine ih (fun hmem => hlater (List.mem_cons_of_mem kind hmem)) ?_
      have hkind : kind ≠ .remove := fun heq => hlater (heq ▸ List.mem_cons_self)
      by_cases hmodify : kind = .modify
      · rw [hmodify]
        exact join_modify_ne_remove h
      · rw [join_of_ne_modify hmodify]
        exact fun heq => hkind (Option.some.inj heq)

theorem settle_remove {later : List ChangeKind} {before : Option ChangeKind}
    (h : before ≠ some .remove) (hsettle : settle before later = some .remove)
    (other : Option ChangeKind) : settle other later = some .remove := by
  induction later generalizing before other with
  | nil => exact absurd hsettle h
  | cons kind rest ih =>
      by_cases hmodify : kind = .modify
      · subst hmodify
        exact ih (join_modify_ne_remove h) hsettle (join other .modify)
      · change settle (join other kind) rest = _
        rw [join_of_ne_modify hmodify]
        rw [settle, List.foldl_cons, join_of_ne_modify hmodify] at hsettle
        exact hsettle

theorem settle_isSome {before : Option ChangeKind} {later : List ChangeKind}
    (h : before.isSome = true ∨ later ≠ []) : (settle before later).isSome = true := by
  induction later generalizing before with
  | nil => exact h.resolve_right fun hne => hne rfl
  | cons kind rest ih =>
      refine ih (.inl ?_)
      cases before <;> rfl

end ChangeKind

def WatchInput.kinds (name : String) : WatchInput → List ChangeKind
  | .raw e => (e.changes name).map Change.kind
  | _ => []

namespace Debounce

variable {d : Debounce} {p : Option Pending} {input : WatchInput} {later : List ChangeKind}

def kind? (p : Option Pending) : Option ChangeKind := p.map (·.change.kind)

theorem ne_none_of_kind? {p : Option Pending} (h : (kind? p).isSome = true) : p ≠ none := by
  rintro rfl
  exact absurd h nofun

theorem kind?_absorb (name : String) (now : Nat) (p : Option Pending) (e : RawEvent) :
    kind? (absorb name now p e) =
      ChangeKind.settle (kind? p) ((e.changes name).map Change.kind) := by
  rw [absorb]
  induction e.changes name generalizing p with
  | nil => rfl
  | cons c rest ih =>
      rw [List.foldl_cons, ih]
      cases p <;> rfl

theorem flush_cases (d : Debounce) (now : Nat) (p : Option Pending) :
    d.flush now p = (p, []) ∨
      ∃ pending, p = some pending ∧
        (d.flush now p = (none, [.changed pending.change]) ∨
          (d.flush now p = (none, []) ∧ pending.change.kind ∉ d.listen)) := by
  cases p with
  | none => exact .inl rfl
  | some pending =>
      by_cases hready : d.isReady now pending = true
      · refine .inr ⟨pending, rfl, ?_⟩
        by_cases hlisten : pending.change.kind ∈ d.listen
        · exact .inl (by simp [flush, hready, hlisten])
        · exact .inr ⟨by simp [flush, hready, hlisten], hlisten⟩
      · exact .inl (by simp [flush, hready])

/-- What is pending and what is left settle on a removal after an input only if they did so with
it. -/
theorem settle_step (d : Debounce) (name : String) (now : Nat)
    (h : ChangeKind.settle (kind? p) (input.kinds name ++ later) ≠ some .remove) :
    ChangeKind.settle (kind? (d.step name p now input).1) later ≠ some .remove := by
  cases input with
  | raw e =>
      rw [ChangeKind.settle_append] at h
      rw [step, kind?_absorb]
      exact h
  | failure message => exact h
  | tick =>
      have hnone : (none : Option ChangeKind) ≠ some .remove := nofun
      have hcut : ChangeKind.settle none later ≠ some .remove := fun hremove =>
        h (ChangeKind.settle_remove hnone hremove (kind? p))
      rcases d.flush_cases now p with hstay | ⟨pending, -, hsent | ⟨hdropped, -⟩⟩
      · rw [step, hstay]
        exact h
      · rw [step, hsent]
        exact hcut
      · rw [step, hdropped]
        exact hcut

/-- Nothing that is pending or left is lost by an input, unless it comes to a removal. -/
theorem pending_step (listens : ∀ kind, kind ≠ .remove → kind ∈ d.listen) (name : String)
    (now : Nat) (h : p ≠ none ∨ input.kinds name ++ later ≠ []) :
    (d.step name p now input).1 ≠ none ∨ later ≠ [] ∨
      (∃ c, .changed c ∈ (d.step name p now input).2) ∨
        ChangeKind.settle (kind? p) (input.kinds name ++ later) = some .remove := by
  cases input with
  | raw e =>
      by_cases htouched : p = none ∧ (WatchInput.raw e).kinds name = []
      · rw [htouched.2, List.nil_append] at h
        exact .inr (.inl (h.resolve_left fun hne => hne htouched.1))
      · refine .inl (ne_none_of_kind? ?_)
        rw [step, kind?_absorb]
        refine ChangeKind.settle_isSome ?_
        by_cases hnone : p = none
        · exact .inr fun hnil => htouched ⟨hnone, hnil⟩
        · obtain ⟨pending, rfl⟩ := Option.ne_none_iff_exists'.mp hnone
          exact .inl rfl
  | failure message => exact h.imp_right .inl
  | tick =>
      rcases d.flush_cases now p with hstay | ⟨pending, rfl, hsent | ⟨hdropped, hunheard⟩⟩
      · rw [step, hstay]
        exact h.imp_right .inl
      · rw [step, hsent]
        exact .inr (.inr (.inl ⟨pending.change, List.mem_cons_self⟩))
      · have hremove : pending.change.kind = .remove := by
          by_contra hne
          exact hunheard (listens _ hne)
        by_cases hlater : later = []
        · rw [hlater]
          exact .inr (.inr (.inr (congrArg some hremove)))
        · exact .inr (.inl hlater)

end Debounce

end LiveConfig
