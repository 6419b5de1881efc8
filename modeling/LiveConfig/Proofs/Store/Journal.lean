import LiveConfig.Proofs.Store.Revised
import Mathlib.Data.List.Basic
/-!
Journaled hosts: every call of what is registered with a store leaves an entry behind.

What a tick runs is one list of jobs, the hooks before, the updaters and the hooks after. A journal
has every call in order, with how it ended and the world that it left, so that what was registered
at that moment can be looked up. Without its journal, a journaled host does what the plain one does.
-/

set_option autoImplicit false

namespace LiveConfig

variable {V : Vocabulary} {σ : Type}

/-! ### Jobs -/

/-- A hook or an updater, as a tick runs it. -/
inductive TickJob (V : Vocabulary) where
  | hook (hook : V.Hook)
  | update (updater : V.Updater)

/-- What a tick runs after a load, in order. -/
def Registry.jobs (r : Registry V) : List (TickJob V) :=
  r.before.map .hook ++ r.updaters.map .update ++ r.after.map .hook

namespace Host

variable (h : Host V σ)

/-- Runs a job; the answer is whether it failed and was reported. -/
def runJob : TickJob V → World V σ → Except Panic Bool × World V σ
  | .hook k, w =>
      let (ended, w) := h.hook k w
      (ended.map fun _ => false, w)
  | .update u, w => h.runUpdater u w

/-- Runs jobs in order and counts those that fail. -/
def runJobs : List (TickJob V) → World V σ → Except Panic Nat × World V σ
  | [], w => (.ok 0, w)
  | job :: rest, w =>
      match h.runJob job w with
      | (.error p, w) => (.error p, w)
      | (.ok failed, w) =>
          let (count, w) := runJobs rest w
          (count.map (· + failed.toNat), w)

theorem runJobs_append (first second : List (TickJob V)) (w : World V σ) :
    h.runJobs (first ++ second) w = match h.runJobs first w with
      | (.error p, w) => (.error p, w)
      | (.ok failed, w) =>
          ((h.runJobs second w).1.map (· + failed), (h.runJobs second w).2) := by
  induction first generalizing w with
  | nil =>
      rcases hsecond : h.runJobs second w with ⟨result, w₁⟩
      cases result <;> simp [runJobs, hsecond, Except.map]
  | cons job rest ih =>
      rcases hjob : h.runJob job w with ⟨result, w₁⟩
      cases result with
      | error p => simp [runJobs, hjob]
      | ok failed =>
          rcases hrest : h.runJobs rest w₁ with ⟨count, w₂⟩
          cases count with
          | error p => simp [runJobs, hjob, ih, hrest, Except.map]
          | ok n =>
              rcases hsecond : h.runJobs second w₂ with ⟨more, w₃⟩
              cases more with
              | error p => simp [runJobs, hjob, ih, hrest, hsecond, Except.map]
              | ok m =>
                  simp only [List.cons_append, runJobs, hjob, ih, hrest, hsecond, Except.map]
                  rw [Nat.add_assoc]

theorem runJobs_hooks (hooks : List V.Hook) (w : World V σ) :
    h.runJobs (hooks.map .hook) w =
      ((h.runHooks hooks w).1.map fun _ => 0, (h.runHooks hooks w).2) := by
  induction hooks generalizing w with
  | nil => rfl
  | cons k rest ih =>
      rcases hk : h.hook k w with ⟨ended, w₁⟩
      cases ended with
      | error p => simp [runJobs, runJob, runHooks, hk, Except.map]
      | ok _ =>
          rcases hrest : h.runHooks rest w₁ with ⟨result, w₂⟩
          cases result <;> simp [runJobs, runJob, runHooks, hk, ih, hrest, Except.map]

theorem runJobs_updaters (updaters : List V.Updater) (w : World V σ) :
    h.runJobs (updaters.map .update) w = h.runUpdaters updaters w := by
  induction updaters generalizing w with
  | nil => rfl
  | cons u rest ih =>
      rcases hu : h.runUpdater u w with ⟨ended, w₁⟩
      cases ended with
      | error p => simp [runJobs, runJob, runUpdaters, hu]
      | ok failed => simp [runJobs, runJob, runUpdaters, hu, ih]

/-- What is registered runs as one list of jobs. -/
theorem runRegistered_eq (r : Registry V) (w : World V σ) :
    h.runRegistered r w = h.runJobs r.jobs w := by
  rw [Registry.jobs, runJobs_append, runJobs_append, runJobs_hooks]
  rcases hbefore : h.runHooks r.before w with ⟨ended, w₁⟩
  cases ended with
  | error p => simp [runRegistered, hbefore, Except.map]
  | ok _ =>
      rcases hupdaters : h.runUpdaters r.updaters w₁ with ⟨count, w₂⟩
      cases count with
      | error p => simp [runRegistered, hbefore, runJobs_updaters, hupdaters, Except.map]
      | ok failed =>
          rcases hafter : h.runHooks r.after w₂ with ⟨finished, w₃⟩
          cases finished <;> simp [runRegistered, hbefore, runJobs_updaters, hupdaters,
            runJobs_hooks, hafter, Except.map]

end Host

/-! ### The journal -/

/-- What a host is asked to do. -/
inductive Asked (V : Vocabulary) where
  | run (job : TickJob V)
  | handle (handler : V.Handler) (e : StoreError)
  | note (notice : Notice)

/-- A call of a host: what it was asked, how it ended and the world that it left. -/
structure HostCall (V : Vocabulary) (σ : Type) where
  asked : Asked V
  ended : Outcome String Unit
  left : World V σ

namespace HostCall

def job? (c : HostCall V σ) : Option (TickJob V) :=
  match c.asked with
  | .run job => some job
  | .handle .. | .note _ => none

def failed (c : HostCall V σ) : Bool :=
  match c.asked, c.ended with
  | .run (.update _), .error _ => true
  | _, _ => false

def panic? (c : HostCall V σ) : Option Panic :=
  match c.ended with
  | .panic message => some ⟨message⟩
  | .ok _ | .error _ => none

end HostCall

/-- The outside of a store, with the calls made, in order. -/
structure Journal (V : Vocabulary) (σ : Type) where
  outside : σ
  calls : List (HostCall V σ) := []

namespace World

def plain (w : World V (Journal V σ)) : World V σ := ⟨w.store, w.outside.outside⟩

def calls (w : World V (Journal V σ)) : List (HostCall V σ) := w.outside.calls

/-- The world that a call left, with the call entered. -/
def entered (w : World V (Journal V σ)) (asked : Asked V) (ended : Outcome String Unit)
    (left : World V σ) : World V (Journal V σ) :=
  ⟨left.store, ⟨left.outside, w.calls ++ [⟨asked, ended, left⟩]⟩⟩

end World

/-- How a call ends that gives nothing and cannot fail but by a panic. -/
def Outcome.ofPanic : Except Panic Unit → Outcome String Unit
  | .ok () => .ok ()
  | .error p => .panic p.message

/-- The host, with every call entered in a journal. A revision belongs to its load and is no entry
of its own. -/
def Host.journaled (h : Host V σ) : Host V (Journal V σ) where
  read := fun o path => h.read o.outside path
  environment := h.environment
  revise := fun r m w =>
    let (revised, left) := h.revise r m w.plain
    (revised, ⟨left.store, ⟨left.outside, w.calls⟩⟩)
  hook := fun k w =>
    let (ended, left) := h.hook k w.plain
    (ended, w.entered (.run (.hook k)) (.ofPanic ended) left)
  update := fun u w =>
    let (ended, left) := h.update u w.plain
    (ended, w.entered (.run (.update u)) ended left)
  nameOf := fun u w => h.nameOf u w.plain
  handle := fun k e w =>
    let (ended, left) := h.handle k e w.plain
    (ended, w.entered (.handle k e) (.ofPanic ended) left)
  note := fun n w => w.entered (.note n) (.ok ()) (h.note n w.plain)

def forget {α : Type} (r : α × World V (Journal V σ)) : α × World V σ := (r.1, r.2.plain)

namespace Host

variable (h : Host V σ) (w : World V (Journal V σ))

theorem forget_fresh : forget (h.journaled.fresh w) = h.fresh w.plain := by
  have hread : loadContent h.journaled.environment w.store.path
      (h.journaled.read w.outside w.store.path) =
        loadContent h.environment w.plain.store.path
          (h.read w.plain.outside w.plain.store.path) := rfl
  have hrevision : w.plain.store.registry.revision = w.store.registry.revision := rfl
  simp only [Loader.fresh, hread, hrevision]
  cases loadContent h.environment w.plain.store.path
      (h.read w.plain.outside w.plain.store.path) with
  | error e => rfl
  | ok m =>
      cases w.store.registry.revision with
      | none => rfl
      | some r =>
          rcases hrevise : h.revise r m w.plain with ⟨revised, left⟩
          simp only [journaled, hrevise]
          cases revised <;> rfl

theorem forget_load : forget (h.journaled.load w) = h.load w.plain := by
  have hfresh := h.forget_fresh w
  rcases hrun : h.journaled.fresh w with ⟨result, w₁⟩
  rw [hrun] at hfresh
  simp only [Loader.load, hrun, ← hfresh, forget]
  cases result <;> rfl

theorem calls_load : (h.journaled.load w).2.calls = w.calls := by
  have hfresh : (h.journaled.fresh w).2.calls = w.calls := by
    rcases h.journaled.world_fresh w with hleft | ⟨r, m, -, hleft⟩
    · rw [hleft]
    · rw [hleft]
      rfl
  rcases hrun : h.journaled.fresh w with ⟨result, w₁⟩
  rw [hrun] at hfresh
  simp only [Loader.load, hrun]
  cases result <;> exact hfresh

theorem forget_report (e : StoreError) : forget (h.journaled.report e w) = h.report e w.plain := by
  have hstore : w.plain.store = w.store := rfl
  simp only [report, hstore]
  cases w.store.registry.handler <;> rfl

theorem forget_runUpdater (u : V.Updater) :
    forget (h.journaled.runUpdater u w) = h.runUpdater u w.plain := by
  rcases hu : h.update u w.plain with ⟨ended, left⟩
  have hj : h.journaled.update u w = (ended, w.entered (.run (.update u)) ended left) := by
    simp [journaled, hu]
  cases ended with
  | ok _ => simp only [runUpdater, hu, hj]; rfl
  | panic m => simp only [runUpdater, hu, hj]; rfl
  | error reason =>
      have hreport : forget (h.journaled.report (.update (h.nameOf u left) reason)
          (w.entered (.run (.update u)) (.error reason) left)) =
            h.report (.update (h.nameOf u left) reason) left := h.forget_report _ _
      simp only [runUpdater, hu, hj, ← hreport]
      rfl

theorem forget_runJob (job : TickJob V) :
    forget (h.journaled.runJob job w) = h.runJob job w.plain := by
  cases job with
  | hook k => rfl
  | update u => exact h.forget_runUpdater w u

theorem forget_runJobs (jobs : List (TickJob V)) :
    forget (h.journaled.runJobs jobs w) = h.runJobs jobs w.plain := by
  induction jobs generalizing w with
  | nil => rfl
  | cons job rest ih =>
      have hjob := h.forget_runJob w job
      rcases hrun : h.journaled.runJob job w with ⟨ended, w₁⟩
      rw [hrun] at hjob
      cases ended with
      | error p => simp only [runJobs, hrun, ← hjob, forget]
      | ok failed =>
          have hrest := ih w₁
          simp only [runJobs, hrun, ← hjob, forget, ← hrest]

/-- A journaled tick is the plain one. -/
theorem forget_reload : forget (h.journaled.reload w) = h.reload w.plain := by
  have hload := h.forget_load w
  rcases hrun : h.journaled.load w with ⟨loaded, w₁⟩
  rw [hrun] at hload
  cases loaded with
  | panic m => simp only [reload, hrun, ← hload, forget]
  | error e =>
      have hreport := h.forget_report w₁ (.load e)
      simp only [reload, hrun, ← hload, forget, ← hreport]
  | ok _ =>
      have hjobs := h.forget_runJobs w₁ w₁.store.registry.jobs
      simp only [reload, hrun, ← hload, forget, runRegistered_eq]
      exact hjobs

end Host

end LiveConfig
