import LiveConfig.Logger.Basic
import LiveConfig.Proofs.FileTree.Opening
/-!
What an output that was opened is opened as later, and what follows for loggers.

A logger that was made can be made again at any time without an effect. So a reset, which opens only
what has changed, gives the logger that would be made from the new settings.
-/

set_option autoImplicit false

namespace LiveConfig.Logger

variable {o o' : Outside} {name : String} {out : Output}

/-- Whatever the name was open as, it is still open as. -/
def Outside.Leaves (o : Outside) (name : String) (o' : Outside) : Prop :=
  ∀ out, o.open name = .ok (out, o) → o'.open name = .ok (out, o')

theorem Outside.open_cases (name : String) :
    (∃ out, ∀ o : Outside, o.open name = .ok (out, o)) ∨
      ∀ o out o', Outside.open o name = .ok (out, o') ↔ ∃ node files,
        o.files.openForWriting name = .ok (node, files) ∧ out = .file node ∧
          o' = { o with files } := by
  by_cases hout : Text.equalsIgnoringCase name "stdout" = true
  · exact .inl ⟨.stdout, fun o => by simp [Outside.open, hout]⟩
  by_cases herr : Text.equalsIgnoringCase name "stderr" = true
  · exact .inl ⟨.stderr, fun o => by simp [Outside.open, hout, herr]⟩
  · refine .inr fun o out o' => ?_
    rcases hopen : o.files.openForWriting name with fault | ⟨node, files⟩
    · simp [Outside.open, hout, herr, hopen]
    · simp [Outside.open, hout, herr, hopen, eq_comm]

theorem Outside.leaves_of_extends (h : o.files.Extends o'.files) (name : String) :
    o.Leaves name o' := by
  intro out hopen
  rcases Outside.open_cases name with ⟨stream, hstream⟩ | hpath
  · rw [hstream, Except.ok.injEq, Prod.mk.injEq] at hopen
    rw [hstream, hopen.1]
  · obtain ⟨node, files, hfound, rfl, hsame⟩ := (hpath _ _ _).mp hopen
    have hfiles : files = o.files := congrArg Outside.files hsame.symm
    rw [hfiles] at hfound
    have hopens := (FileTree.opens_of_openForWriting hfound).extends h
    exact (hpath _ _ _).mpr ⟨node, o'.files, hopens.openForWriting, rfl, rfl⟩

theorem Outside.open_again (h : o.open name = .ok (out, o')) : o'.open name = .ok (out, o') := by
  rcases Outside.open_cases name with ⟨stream, hstream⟩ | hpath
  · rw [hstream, Except.ok.injEq, Prod.mk.injEq] at h
    rw [hstream, h.1]
  · obtain ⟨node, files, hfound, rfl, rfl⟩ := (hpath _ _ _).mp h
    have hopens := FileTree.openForWriting_opens hfound
    exact (hpath _ _ _).mpr ⟨node, files, hopens.openForWriting, rfl, rfl⟩

/-! ### Loggers -/

variable {l : Logger} {c old new : Config}

theorem make_eq_ok_iff : make c o = .ok (l, o') ↔
    readLevel c.level = .ok l.level ∧ o.open c.output = .ok (l.output, o') := by
  obtain ⟨level, output⟩ := l
  cases hlevel : readLevel c.level with
  | error e => simp [make, hlevel, Bind.bind, Except.bind]
  | ok level' =>
      rcases hopen : o.open c.output with e | ⟨output', o₁⟩
      · simp [make, hlevel, hopen, Bind.bind, Except.bind]
      · simp [make, hlevel, hopen, Bind.bind, Except.bind, and_assoc]

theorem make_again (h : make c o = .ok (l, o')) : make c o' = .ok (l, o') := by
  obtain ⟨hlevel, hopen⟩ := make_eq_ok_iff.mp h
  exact make_eq_ok_iff.mpr ⟨hlevel, Outside.open_again hopen⟩

theorem make_of_leaves (h : make c o = .ok (l, o)) (hleaves : o.Leaves c.output o') :
    make c o' = .ok (l, o') := by
  obtain ⟨hlevel, hopen⟩ := make_eq_ok_iff.mp h
  exact make_eq_ok_iff.mpr ⟨hlevel, hleaves _ hopen⟩

/-- A reset gives what would be made, and fails as that would fail. -/
theorem reset_eq_make (h : make old o = .ok (l, o)) : l.reset old new o = make new o := by
  obtain ⟨hlevel, hopen⟩ := make_eq_ok_iff.mp h
  have hkeptLevel : old.level = new.level → readLevel new.level = .ok l.level :=
    fun hsame => hsame ▸ hlevel
  have hkeptOutput : old.output = new.output → o.open new.output = .ok (l.output, o) :=
    fun hsame => hsame ▸ hopen
  by_cases hl : old.level = new.level
  · by_cases ho : old.output = new.output
    · simp [reset, make, hl, ho, hkeptLevel hl, hkeptOutput ho, Bind.bind, Except.bind]
    · simp [reset, make, hl, ho, hkeptLevel hl, Bind.bind, Except.bind]
  · by_cases ho : old.output = new.output
    · simp [reset, make, hl, ho, hkeptOutput ho, Bind.bind, Except.bind]
    · simp [reset, make, hl, ho]

end LiveConfig.Logger
