import LiveConfig.Proofs.Store.Journal
/-!
What is registered with a store, and what is registered while a tick runs.

A registration adds to the end of its list or sets the handler or the revision, and nothing is ever
taken away. So the jobs of a tick run again in the next one, with those behind them that callbacks
of the first have registered.
-/

set_option autoImplicit false

namespace LiveConfig

variable {V : Vocabulary} {σ : Type}

/-! ### Registrations -/

/-- What can be registered with a store. -/
inductive Registration (V : Vocabulary) where
  | revision (r : V.Revision)
  | early (k : V.Hook)
  | late (k : V.Hook)
  | updater (u : V.Updater)
  | handler (k : V.Handler)

namespace Registration

def early? : Registration V → Option V.Hook
  | early k => some k
  | _ => none

def late? : Registration V → Option V.Hook
  | late k => some k
  | _ => none

def updater? : Registration V → Option V.Updater
  | updater u => some u
  | _ => none

def handler? : Registration V → Option V.Handler
  | handler k => some k
  | _ => none

end Registration

namespace Store

def register (s : Store V) : Registration V → Store V
  | .revision r => s.setRevision r
  | .early k => s.addEarlyHook k
  | .late k => s.addLateHook k
  | .updater u => s.addUpdater u
  | .handler k => s.setHandler k

def registered (s : Store V) (rs : List (Registration V)) : Store V := rs.foldl register s

variable (s : Store V) (rs rs' : List (Registration V))

@[simp] theorem register_path (r : Registration V) : (s.register r).path = s.path := by
  cases r <;> rfl

@[simp] theorem register_settings (r : Registration V) : (s.register r).settings = s.settings := by
  cases r <;> rfl

theorem registered_append : s.registered (rs ++ rs') = (s.registered rs).registered rs' :=
  List.foldl_append

theorem registry_registered {s s' : Store V} (h : s.registry = s'.registry) :
    (s.registered rs).registry = (s'.registered rs).registry := by
  induction rs generalizing s s' with
  | nil => exact h
  | cons r rest ih =>
      have hfirst : (s.register r).registry = (s'.register r).registry := by
        cases r <;> simp only [register, setRevision, addEarlyHook, addLateHook, addUpdater,
          setHandler, h]
      exact ih hfirst

theorem before_registered :
    (s.registered rs).registry.before = s.registry.before ++ rs.filterMap (·.early?) := by
  induction rs generalizing s with
  | nil => exact (List.append_nil _).symm
  | cons r rest ih =>
      refine (ih (s.register r)).trans ?_
      cases r with
      | early k => simp [register, addEarlyHook, Registration.early?]
      | revision | late | updater | handler => rfl

theorem updaters_registered :
    (s.registered rs).registry.updaters = s.registry.updaters ++ rs.filterMap (·.updater?) := by
  induction rs generalizing s with
  | nil => exact (List.append_nil _).symm
  | cons r rest ih =>
      refine (ih (s.register r)).trans ?_
      cases r with
      | updater u => simp [register, addUpdater, Registration.updater?]
      | revision | early | late | handler => rfl

theorem after_registered :
    (s.registered rs).registry.after = s.registry.after ++ rs.filterMap (·.late?) := by
  induction rs generalizing s with
  | nil => exact (List.append_nil _).symm
  | cons r rest ih =>
      refine (ih (s.register r)).trans ?_
      cases r with
      | late k => simp [register, addLateHook, Registration.late?]
      | revision | early | updater | handler => rfl

theorem handler_registered : (s.registered rs).registry.handler =
    (rs.filterMap (·.handler?)).getLast?.or s.registry.handler := by
  induction rs generalizing s with
  | nil => rfl
  | cons r rest ih =>
      refine (ih (s.register r)).trans ?_
      cases r with
      | handler k =>
          rw [List.filterMap_cons_some (by rfl), List.getLast?_cons]
          cases (rest.filterMap (·.handler?)).getLast? <;> rfl
      | revision | early | late | updater => rfl

end Store

/-! ### Registrations during a tick -/

/-- What is registered with the host, its revisions among it, changes the registry by registrations
only. -/
structure Host.Registers (h : Host V σ) : Prop where
  revise : ∀ r m w, ∃ made,
    (h.revise r m w).2.store.registry = (w.store.registered made).registry
  hook : ∀ k w, ∃ made, (h.hook k w).2.store.registry = (w.store.registered made).registry
  update : ∀ u w, ∃ made, (h.update u w).2.store.registry = (w.store.registered made).registry
  handle : ∀ k e w, ∃ made,
    (h.handle k e w).2.store.registry = (w.store.registered made).registry
  note : ∀ n w, ∃ made, (h.note n w).store.registry = (w.store.registered made).registry

/-- Calls lead from a store to another one, each by what it registers. -/
inductive Registering :
    Store V → List (HostCall V σ) → List (Registration V) → Store V → Prop
  | rest (s : Store V) : Registering s [] [] s
  | call {s t : Store V} {c : HostCall V σ} {calls : List (HostCall V σ)}
      {made new : List (Registration V)} :
      c.left.store.registry = (s.registered made).registry →
      Registering c.left.store calls new t → Registering s (c :: calls) (made ++ new) t

namespace Registering

variable {s t u : Store V} {calls calls' : List (HostCall V σ)} {new new' : List (Registration V)}

theorem trans (h : Registering s calls new t) (h' : Registering t calls' new' u) :
    Registering s (calls ++ calls') (new ++ new') u := by
  induction h with
  | rest => exact h'
  | call hmade _ ih =>
      rw [List.append_assoc]
      exact .call hmade (ih h')

theorem registry_eq (h : Registering s calls new t) :
    t.registry = (s.registered new).registry := by
  induction h with
  | rest => rfl
  | call hmade _ ih =>
      rw [Store.registered_append]
      exact ih.trans (Store.registry_registered _ hmade)

end Registering

namespace World

def Grows (w w' : World V (Journal V σ)) : Prop :=
  ∃ calls new, w'.calls = w.calls ++ calls ∧ Registering w.store calls new w'.store

namespace Grows

variable {w w' w'' : World V (Journal V σ)}

theorem refl (w : World V (Journal V σ)) : w.Grows w :=
  ⟨[], [], (List.append_nil _).symm, .rest _⟩

theorem trans (h : w.Grows w') (h' : w'.Grows w'') : w.Grows w'' := by
  obtain ⟨calls, new, hcalls, hnew⟩ := h
  obtain ⟨calls', new', hcalls', hnew'⟩ := h'
  exact ⟨calls ++ calls', new ++ new', by rw [hcalls', hcalls, List.append_assoc],
    hnew.trans hnew'⟩

theorem entered {left : World V σ} (asked : Asked V) (ended : Outcome String Unit)
    (h : ∃ made, left.store.registry = (w.store.registered made).registry) :
    w.Grows (w.entered asked ended left) := by
  obtain ⟨made, hmade⟩ := h
  exact ⟨[⟨asked, ended, left⟩], made ++ [], rfl, .call hmade (.rest _)⟩

end Grows

end World

namespace Host.Registers

variable {h : Host V σ} (hr : h.Registers) (w : World V (Journal V σ))

include hr

theorem report (e : StoreError) : w.Grows (h.journaled.report e w).2 := by
  simp only [Host.report]
  cases w.store.registry.handler with
  | none => exact .entered _ _ (hr.note _ _)
  | some k => exact .entered _ _ (hr.handle k e w.plain)

theorem runJob (job : TickJob V) : w.Grows (h.journaled.runJob job w).2 := by
  cases job with
  | hook k => exact .entered _ _ (hr.hook k w.plain)
  | update u =>
      have hfirst : w.Grows (h.journaled.update u w).2 := .entered _ _ (hr.update u w.plain)
      rcases hu : h.journaled.update u w with ⟨ended, w₁⟩
      rw [hu] at hfirst
      simp only [Host.runJob, runUpdater, hu]
      cases ended with
      | ok _ => exact hfirst
      | panic m => exact hfirst
      | error reason => exact hfirst.trans (hr.report w₁ _)

theorem runJobs (jobs : List (TickJob V)) : w.Grows (h.journaled.runJobs jobs w).2 := by
  induction jobs generalizing w with
  | nil => exact .refl w
  | cons job rest ih =>
      have hjob := hr.runJob w job
      rcases hrun : h.journaled.runJob job w with ⟨ended, w₁⟩
      rw [hrun] at hjob
      simp only [Host.runJobs, hrun]
      cases ended with
      | error p => exact hjob
      | ok failed => exact hjob.trans (ih w₁)

theorem reload : (h.journaled.load w).2.Grows (h.journaled.reload w).2 := by
  rcases hload : h.journaled.load w with ⟨loaded, w₁⟩
  simp only [Host.reload, hload]
  cases loaded with
  | panic m => exact .refl w₁
  | error e => exact hr.report w₁ (.load e)
  | ok _ =>
      simp only [runRegistered_eq]
      exact hr.runJobs w₁ w₁.store.registry.jobs

theorem load : ∃ made,
    (h.journaled.load w).2.store.registry = (w.store.registered made).registry := by
  have hfresh : ∃ made,
      (h.journaled.fresh w).2.store.registry = (w.store.registered made).registry := by
    rcases h.journaled.world_fresh w with hleft | ⟨r, m, -, hleft⟩
    · exact ⟨[], by rw [hleft]; rfl⟩
    · rw [hleft]
      exact hr.revise r m w.plain
  rcases hrun : h.journaled.fresh w with ⟨result, w₁⟩
  rw [hrun] at hfresh
  simp only [Loader.load, hrun]
  cases result <;> exact hfresh

end Host.Registers

end LiveConfig
