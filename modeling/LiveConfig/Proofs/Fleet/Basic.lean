import LiveConfig.Container.Session
import LiveConfig.Proofs.Container.Again
import LiveConfig.Proofs.Store.Revised
import Mathlib.Logic.Function.Basic
/-!
Fleets: containers that are registered with a store as its updaters.

The code of an updater names a container, so one container may be registered more than once. The
callbacks of containers, the hooks and the handlers see the store and what lies around it, but no
container. What a tick does to the containers and whom it tells of errors is kept as events.
-/

set_option autoImplicit false

namespace LiveConfig

inductive FleetEvent (V : Vocabulary) where
  | updated (u : V.Updater) (result : Outcome ContainerError Decision) (closings : List Closing)
  | handled (handler : V.Handler) (e : StoreError)
  | noted (notice : Notice)

namespace FleetEvent

variable {V : Vocabulary}

def isReport : FleetEvent V → Bool
  | updated .. => false
  | handled .. | noted _ => true

def concerns [DecidableEq V.Updater] (u : V.Updater) : FleetEvent V → Bool
  | updated u' .. => u' = u
  | handled .. | noted _ => false

def failed : FleetEvent V → Bool
  | updated _ (.error _) _ => true
  | updated .. | handled .. | noted _ => false

def Quiet : FleetEvent V → Prop
  | updated _ result closings => (∀ d, result = .ok d → d = .keep) ∧ closings = []
  | handled .. | noted _ => True

def report (s : Store V) (e : StoreError) : FleetEvent V :=
  match s.registry.handler with
  | some k => handled k e
  | none => noted (.reloadFailed s.path e.message)

@[simp] theorem concerns_updated [DecidableEq V.Updater] (u u' : V.Updater)
    (result : Outcome ContainerError Decision) (closings : List Closing) :
    (updated u' result closings).concerns u = decide (u' = u) := rfl

@[simp] theorem concerns_report [DecidableEq V.Updater] (u : V.Updater) (s : Store V)
    (e : StoreError) : (report s e).concerns u = false := by
  unfold report
  split <;> rfl

@[simp] theorem isReport_updated (u : V.Updater) (result : Outcome ContainerError Decision)
    (closings : List Closing) : (updated u result closings).isReport = false := rfl

@[simp] theorem isReport_report (s : Store V) (e : StoreError) :
    (report s e).isReport = true := by
  unfold report
  split <;> rfl

end FleetEvent

/-- What a store calls: the callbacks of every container, the hooks and the handlers, and revisions
that act on settings alone. -/
structure Fleet (V : Vocabulary) (R C : V.Updater → Type) (ω : Type) where
  read : ω → String → Except FileFault ByteArray
  environment : EnvText.Environment
  revise : V.Revision → Settings → Except Panic Settings
  callbacks : ∀ u, Callbacks (R u) (C u) (World V ω)
  hook : V.Hook → World V ω → Except Panic Unit × World V ω
  handle : V.Handler → StoreError → World V ω → Except Panic Unit × World V ω
  note : Notice → World V ω → World V ω

/-- What lies outside of the store: the containers, what is around them, and the events so far. -/
structure Fleet.Outside (V : Vocabulary) (R C : V.Updater → Type) (ω : Type) where
  containers : ∀ u, Container (R u) (C u)
  around : ω
  events : List (FleetEvent V) := []

variable {V : Vocabulary} {R C : V.Updater → Type} {ω : Type}

namespace World

def inner (w : World V (Fleet.Outside V R C ω)) : World V ω := ⟨w.store, w.outside.around⟩

def moved (w : World V (Fleet.Outside V R C ω)) (v : World V ω) :
    World V (Fleet.Outside V R C ω) :=
  ⟨v.store, { w.outside with around := v.outside }⟩

def tell (w : World V (Fleet.Outside V R C ω)) (e : FleetEvent V) :
    World V (Fleet.Outside V R C ω) :=
  { w with outside := { w.outside with events := w.outside.events ++ [e] } }

def put [DecidableEq V.Updater] (w : World V (Fleet.Outside V R C ω)) (u : V.Updater)
    (c : Container (R u) (C u)) : World V (Fleet.Outside V R C ω) :=
  { w with outside := { w.outside with containers := Function.update w.outside.containers u c } }

def enlist (w : World V (Fleet.Outside V R C ω)) (updaters : List V.Updater) :
    World V (Fleet.Outside V R C ω) :=
  { w with store := { w.store with registry := { w.store.registry with updaters } } }

def hushed (w : World V (Fleet.Outside V R C ω)) : World V (Fleet.Outside V R C ω) :=
  { w with outside := { w.outside with events := [] } }

end World

namespace Fleet

variable [DecidableEq V.Updater] (f : Fleet V R C ω)

def step (u : V.Updater) (c : Container (R u) (C u)) (v : World V ω) :
    Step (R u) (C u) (World V ω) (Outcome ContainerError Decision) :=
  c.update (f.callbacks u) v

/-- The world after a step, with its notices taken. -/
def noticed {u : V.Updater} {ρ : Type} (s : Step (R u) (C u) (World V ω) ρ) : World V ω :=
  s.notices.foldl (fun v n => f.note n v) s.world

def updated (u : V.Updater) (w : World V (Outside V R C ω)) : World V (Outside V R C ω) :=
  let s := f.step u (w.outside.containers u) w.inner
  ((w.moved (f.noticed s)).put u s.container).tell (.updated u s.result s.closings)

def host : Host V (Outside V R C ω) where
  read := fun o path => f.read o.around path
  environment := f.environment
  revise := fun r m w => (f.revise r m, w)
  hook := fun k w => ((f.hook k w.inner).1, w.moved (f.hook k w.inner).2)
  update := fun u w =>
    let s := f.step u (w.outside.containers u) w.inner
    ((s.result.map fun _ => ()).mapError ContainerError.message, f.updated u w)
  nameOf := fun u w => (w.outside.containers u).name
  handle := fun k e w =>
    ((f.handle k e w.inner).1, (w.moved (f.handle k e w.inner).2).tell (.handled k e))
  note := fun n w => (w.moved (f.note n w.inner)).tell (.noted n)

theorem pure : f.host.Pure := ⟨f.revise, fun _ _ _ => rfl⟩

def tick (w : World V (Outside V R C ω)) : Except Panic Nat × World V (Outside V R C ω) :=
  f.host.reload w.hushed

/-- In the worlds of `P`, which have the path and the handler of `s`, what is registered with `s`
besides the containers always ends in the same way, and taking a notice stays in them. -/
structure Orderly (f : Fleet V R C ω) (P : World V ω → Prop) (s : Store V) : Prop where
  store : ∀ v, P v → v.store.path = s.path ∧ v.store.registry.handler = s.registry.handler
  hooks : ∀ k, k ∈ s.registry.before ∨ k ∈ s.registry.after → ∃ ended, Always P (f.hook k) ended
  handlers : ∀ k, s.registry.handler = some k → ∀ e, ∃ ended, Always P (f.handle k e) ended
  notes : ∀ n v, P v → P (f.note n v)

theorem containers_updated (u : V.Updater) (w : World V (Outside V R C ω)) :
    (f.updated u w).outside.containers = Function.update w.outside.containers u
      (f.step u (w.outside.containers u) w.inner).container := rfl

theorem events_updated (u : V.Updater) (w : World V (Outside V R C ω)) :
    (f.updated u w).outside.events = w.outside.events ++
      [.updated u (f.step u (w.outside.containers u) w.inner).result
        (f.step u (w.outside.containers u) w.inner).closings] := rfl

theorem containers_runHooks (hooks : List V.Hook) (w : World V (Outside V R C ω)) :
    (f.host.runHooks hooks w).2.outside.containers = w.outside.containers := by
  induction hooks generalizing w with
  | nil => rfl
  | cons k rest ih =>
      have hmoved : (f.host.hook k w).2.outside.containers = w.outside.containers := rfl
      rcases hrun : f.host.hook k w with ⟨ended, w₁⟩
      rw [hrun] at hmoved
      cases ended with
      | error p => simpa only [Host.runHooks, hrun] using hmoved
      | ok _ => simpa only [Host.runHooks, hrun] using (ih w₁).trans hmoved

theorem runUpdater_eq (u : V.Updater) (w : World V (Outside V R C ω)) :
    f.host.runUpdater u w =
      match (f.step u (w.outside.containers u) w.inner).result with
      | .ok _ => (.ok false, f.updated u w)
      | .panic m => (.error ⟨m⟩, f.updated u w)
      | .error e =>
          let (ended, w₁) := f.host.report (.update
            (f.step u (w.outside.containers u) w.inner).container.name e.message) (f.updated u w)
          (ended.map fun _ => true, w₁) := by
  have hname : f.host.nameOf u (f.updated u w) =
      (f.step u (w.outside.containers u) w.inner).container.name :=
    congrArg Container.name (Function.update_self ..)
  have hupdate : f.host.update u w =
      (((f.step u (w.outside.containers u) w.inner).result.map fun _ => ()).mapError
        ContainerError.message, f.updated u w) := rfl
  simp only [Host.runUpdater, hupdate]
  cases (f.step u (w.outside.containers u) w.inner).result with
  | ok d => rfl
  | panic m => rfl
  | error e =>
      rw [← hname]
      rfl

namespace Orderly

variable {f : Fleet V R C ω} {P : World V ω → Prop} {s : Store V}

omit [DecidableEq V.Updater] in
theorem foldl_note (h : f.Orderly P s) (notices : List Notice) {v : World V ω} (hv : P v) :
    P (notices.foldl (fun v n => f.note n v) v) := by
  induction notices generalizing v with
  | nil => exact hv
  | cons n rest ih => exact ih (h.notes n v hv)

theorem runHooks (h : f.Orderly P s) {hooks : List V.Hook}
    (hmem : ∀ k ∈ hooks, k ∈ s.registry.before ∨ k ∈ s.registry.after) :
    ∃ ended, ∀ w, P w.inner → ∃ v, P v ∧ f.host.runHooks hooks w = (ended, w.moved v) := by
  induction hooks with
  | nil => exact ⟨.ok (), fun w hw => ⟨w.inner, hw, rfl⟩⟩
  | cons k rest ih =>
      obtain ⟨first, hfirst⟩ := h.hooks k (hmem k List.mem_cons_self)
      obtain ⟨later, hlater⟩ := ih fun k' hk' => hmem k' (List.mem_cons_of_mem k hk')
      have hk : ∀ w : World V (Outside V R C ω), P w.inner →
          ∃ v, P v ∧ f.host.hook k w = (first, w.moved v) := by
        intro w hw
        obtain ⟨v, hrun, hv⟩ := hfirst.ran hw
        refine ⟨v, hv, ?_⟩
        simp only [host, hrun]
      cases first with
      | error p =>
          refine ⟨.error p, fun w hw => ?_⟩
          obtain ⟨v, hv, hrun⟩ := hk w hw
          exact ⟨v, hv, by simp only [Host.runHooks, hrun]⟩
      | ok _ =>
          refine ⟨later, fun w hw => ?_⟩
          obtain ⟨v, hv, hrun⟩ := hk w hw
          obtain ⟨v', hv', hrest⟩ := hlater (w.moved v) hv
          exact ⟨v', hv', by simp only [Host.runHooks, hrun, hrest]; rfl⟩

theorem report (h : f.Orderly P s) (e : StoreError) : ∃ ended, ∀ w, P w.inner →
    ∃ v, P v ∧ f.host.report e w = (ended, (w.moved v).tell (.report s e)) := by
  cases hhandler : s.registry.handler with
  | none =>
      refine ⟨.ok (), fun w hw => ⟨_, h.notes (.reloadFailed s.path e.message) w.inner hw, ?_⟩⟩
      obtain ⟨hpath, hsame⟩ := h.store w.inner hw
      have hnone : w.store.registry.handler = none := hsame.trans hhandler
      have hfile : w.store.path = s.path := hpath
      simp only [Host.report, FleetEvent.report, hnone, hhandler, hfile]
      rfl
  | some k =>
      obtain ⟨ended, hended⟩ := h.handlers k hhandler e
      refine ⟨ended, fun w hw => ?_⟩
      obtain ⟨v, hrun, hv⟩ := hended.ran hw
      have hsome : w.store.registry.handler = some k := (h.store w.inner hw).2.trans hhandler
      refine ⟨v, hv, ?_⟩
      simp only [Host.report, FleetEvent.report, hsome, hhandler, host, hrun]

theorem runUpdater (h : f.Orderly P s) {u : V.Updater} {w : World V (Outside V R C ω)}
    (hstep : P (f.step u (w.outside.containers u) w.inner).world) :
    P (f.host.runUpdater u w).2.inner ∧
      (f.host.runUpdater u w).2.outside.containers = (f.updated u w).outside.containers := by
  have hupdated : P (f.updated u w).inner := h.foldl_note _ hstep
  rw [runUpdater_eq]
  cases (f.step u (w.outside.containers u) w.inner).result with
  | ok d => exact ⟨hupdated, rfl⟩
  | panic m => exact ⟨hupdated, rfl⟩
  | error e =>
      obtain ⟨ended, hrun⟩ := h.report
        (.update (f.step u (w.outside.containers u) w.inner).container.name e.message)
      obtain ⟨v, hv, hreport⟩ := hrun (f.updated u w) hupdated
      simp only [hreport]
      exact ⟨hv, rfl⟩

end Orderly

end Fleet

end LiveConfig
