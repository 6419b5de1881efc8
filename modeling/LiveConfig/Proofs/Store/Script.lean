import LiveConfig.Proofs.Store.Registered
import LiveConfig.Store.Read
/-!
Hooks, updaters and handlers as scripts: what they do to a store, deed by deed.

A script looks at the world, changes what lies outside of the store, registers and loads, and goes
on as it finds things. So a callback may load the store that is being reloaded. The deeds of a whole
tick stand in one list, those of its callbacks among them, and replaying the list is the tick.
-/

set_option autoImplicit false

namespace LiveConfig

variable {V : Vocabulary} {σ α β : Type}

/-! ### Deeds -/

/-- What happens to a store or around it. -/
inductive Deed (V : Vocabulary) (σ : Type) where
  | change (outside : σ)
  | register (r : Registration V)
  | load

namespace World

variable (l : Loader V σ)

def act (w : World V σ) : Deed V σ → World V σ
  | .change outside => { w with outside }
  | .register r => { w with store := w.store.register r }
  | .load => (l.load w).2

def after (w : World V σ) (deeds : List (Deed V σ)) : World V σ := deeds.foldl (act l) w

/-- The worlds in which the store was told to load, in order. -/
def loads (w : World V σ) : List (Deed V σ) → List (World V σ)
  | [] => []
  | .load :: rest => w :: loads (w.act l .load) rest
  | d :: rest => loads (w.act l d) rest

theorem after_append (w : World V σ) (first second : List (Deed V σ)) :
    w.after l (first ++ second) = (w.after l first).after l second :=
  List.foldl_append

theorem loads_append (w : World V σ) (first second : List (Deed V σ)) :
    w.loads l (first ++ second) = w.loads l first ++ (w.after l first).loads l second := by
  induction first generalizing w with
  | nil => rfl
  | cons d rest ih =>
      cases d with
      | load => exact congrArg (w :: ·) (ih _)
      | change outside => exact ih _
      | register r => exact ih _

end World

/-! ### Scripts -/

/-- A program that works on a store and around it, and ends with a result. -/
inductive Script (V : Vocabulary) (σ α : Type) where
  | done (result : α)
  | look (next : World V σ → Script V σ α)
  | change (outside : σ) (next : Script V σ α)
  | register (r : Registration V) (next : Script V σ α)
  | load (next : Outcome LoadError Unit → Script V σ α)

namespace Script

variable (l : Loader V σ)

/-- One script after another, which sees the result of the first. -/
def bind (s : Script V σ α) (f : α → Script V σ β) : Script V σ β :=
  match s with
  | done result => f result
  | look next => look fun w => (next w).bind f
  | change outside next => change outside (next.bind f)
  | register r next => register r (next.bind f)
  | load next => load fun loaded => (next loaded).bind f

def map (g : α → β) (s : Script V σ α) : Script V σ β := s.bind fun a => done (g a)

def deeds : Script V σ α → World V σ → List (Deed V σ)
  | done _, _ => []
  | look next, w => (next w).deeds w
  | change outside next, w => .change outside :: next.deeds (w.act l (.change outside))
  | register r next, w => .register r :: next.deeds (w.act l (.register r))
  | load next, w => .load :: (next (l.load w).1).deeds (l.load w).2

def result : Script V σ α → World V σ → α
  | done result, _ => result
  | look next, w => (next w).result w
  | change outside next, w => next.result (w.act l (.change outside))
  | register r next, w => next.result (w.act l (.register r))
  | load next, w => (next (l.load w).1).result (l.load w).2

def run (s : Script V σ α) (w : World V σ) : α × World V σ :=
  (s.result l w, w.after l (s.deeds l w))

theorem run_look (next : World V σ → Script V σ α) (w : World V σ) :
    (look next).run l w = (next w).run l w := rfl

theorem run_load (next : Outcome LoadError Unit → Script V σ α) (w : World V σ) :
    (load next).run l w = (next (l.load w).1).run l (l.load w).2 := rfl

theorem run_bind (s : Script V σ α) (f : α → Script V σ β) (w : World V σ) :
    (s.bind f).run l w = (f (s.run l w).1).run l (s.run l w).2 := by
  induction s generalizing w with
  | done result => rfl
  | look next ih => exact ih w w
  | change outside next ih => exact ih (w.act l (.change outside))
  | register r next ih => exact ih (w.act l (.register r))
  | load next ih => exact ih (l.load w).1 (l.load w).2

theorem run_map (g : α → β) (s : Script V σ α) (w : World V σ) :
    (s.map g).run l w = (g (s.run l w).1, (s.run l w).2) :=
  run_bind l s _ w

end Script

/-! ### Ticks -/

/-- What the codes of a vocabulary mean, in scripts. -/
structure Scripts (V : Vocabulary) (σ : Type) extends Loader V σ where
  hook : V.Hook → Script V σ (Except Panic Unit)
  update : V.Updater → Script V σ (Outcome String Unit)
  nameOf : V.Updater → World V σ → String
  handle : V.Handler → StoreError → Script V σ (Except Panic Unit)
  note : Notice → Script V σ Unit

namespace Scripts

variable (p : Scripts V σ)

def host : Host V σ where
  toLoader := p.toLoader
  hook := fun k => (p.hook k).run p.toLoader
  update := fun u => (p.update u).run p.toLoader
  nameOf := p.nameOf
  handle := fun k e => (p.handle k e).run p.toLoader
  note := fun n w => ((p.note n).run p.toLoader w).2

def report (e : StoreError) : Script V σ (Except Panic Unit) :=
  .look fun w =>
    match w.store.registry.handler with
    | some k => p.handle k e
    | none => (p.note (.reloadFailed w.store.path e.message)).map .ok

def runJob : TickJob V → Script V σ (Except Panic Bool)
  | .hook k => (p.hook k).map fun ended => ended.map fun _ => false
  | .update u => (p.update u).bind fun
      | .ok () => .done (.ok false)
      | .panic m => .done (.error ⟨m⟩)
      | .error reason => .look fun w =>
          (p.report (.update (p.nameOf u w) reason)).map fun reported => reported.map fun _ => true

def runJobs : List (TickJob V) → Script V σ (Except Panic Nat)
  | [] => .done (.ok 0)
  | job :: rest => (p.runJob job).bind fun
      | .error e => .done (.error e)
      | .ok failed => (runJobs rest).map fun count => count.map (· + failed.toNat)

def afterLoad : Outcome LoadError Unit → Script V σ (Except Panic Nat)
  | .panic m => .done (.error ⟨m⟩)
  | .error e => (p.report (.load e)).map fun reported => reported.map fun _ => 1
  | .ok () => .look fun w => p.runJobs w.store.registry.jobs

def reload : Script V σ (Except Panic Nat) := .load p.afterLoad

theorem run_report (e : StoreError) (w : World V σ) :
    (p.report e).run p.toLoader w = p.host.report e w := by
  rw [report, Script.run_look, Host.report]
  cases w.store.registry.handler with
  | none => exact Script.run_map _ _ _ _
  | some k => rfl

theorem run_runJob (job : TickJob V) (w : World V σ) :
    (p.runJob job).run p.toLoader w = p.host.runJob job w := by
  cases job with
  | hook k => exact Script.run_map _ _ _ _
  | update u =>
      have hupdate : p.host.update u w = (p.update u).run p.toLoader w := rfl
      rw [runJob, Script.run_bind, Host.runJob, Host.runUpdater, hupdate]
      rcases (p.update u).run p.toLoader w with ⟨ended, w₁⟩
      cases ended with
      | ok _ => rfl
      | panic m => rfl
      | error reason =>
          have hreport := p.run_report (.update (p.nameOf u w₁) reason) w₁
          have hmap := Script.run_map p.toLoader
            (fun reported : Except Panic Unit => reported.map fun _ => true)
            (p.report (.update (p.nameOf u w₁) reason)) w₁
          rw [hreport] at hmap
          exact hmap

theorem run_runJobs (jobs : List (TickJob V)) (w : World V σ) :
    (p.runJobs jobs).run p.toLoader w = p.host.runJobs jobs w := by
  induction jobs generalizing w with
  | nil => rfl
  | cons job rest ih =>
      rw [runJobs, Script.run_bind, p.run_runJob, Host.runJobs]
      rcases p.host.runJob job w with ⟨ended, w₁⟩
      cases ended with
      | error e => rfl
      | ok failed =>
          have hmap := Script.run_map p.toLoader
            (fun count : Except Panic Nat => count.map (· + failed.toNat)) (p.runJobs rest) w₁
          rw [ih] at hmap
          exact hmap

/-- The script of a tick does what the tick does. -/
theorem run_reload (w : World V σ) : p.reload.run p.toLoader w = p.host.reload w := by
  have hload : p.host.load w = p.load w := rfl
  rw [reload, Script.run_load, Host.reload, hload]
  rcases p.load w with ⟨loaded, w₁⟩
  cases loaded with
  | panic m => rfl
  | error e =>
      have hmap := Script.run_map p.toLoader
        (fun reported : Except Panic Unit => reported.map fun _ => 1) (p.report (.load e)) w₁
      rw [p.run_report] at hmap
      exact hmap
  | ok _ =>
      have hjobs := p.run_runJobs w₁.store.registry.jobs w₁
      rw [← Host.runRegistered_eq] at hjobs
      exact hjobs

end Scripts

end LiveConfig
