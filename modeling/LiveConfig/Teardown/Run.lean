import LiveConfig.Notice
import LiveConfig.Teardown.Basic
/-!
Running a teardown chain.

A run takes the newest action, executes it and goes on until no action waits. An action that runs
the chain itself starts an inner run, which the outer one waits for. Failures are noted and
counted by the run that executed the action. A panic ends all runs at once and leaves the waiting
actions where they are.

The run is a machine that makes one step at a time. Every step lowers the weight of what is left.
-/

set_option autoImplicit false

namespace LiveConfig.Teardown

variable {σ : Type}

/-- A run that waits for an inner one, which its current action started. -/
structure Suspended (σ : Type) where
  failed : Nat
  name : String
  resume : Nat → σ → σ
  rest : Routine σ

/-- A run in progress: the failures it counted, the action it executes, the runs that wait for it
with the innermost first, the chain, the world, and the notices so far. -/
structure Progress (σ : Type) where
  failed : Nat
  current : Option (Action σ)
  outer : List (Suspended σ)
  waiting : List (Action σ)
  world : σ
  notices : List Notice

structure Ended (σ : Type) where
  result : Except Panic Nat
  waiting : List (Action σ)
  world : σ
  notices : List Notice

namespace Progress

def execute (p : Progress σ) (name : String) : Routine σ → Ended σ ⊕ Progress σ
  | .finish f =>
      match f p.world with
      | (.ok (), world) => .inr { p with current := none, world }
      | (.error e, world) =>
          .inr { p with
            failed := p.failed + 1
            current := none
            world
            notices := p.notices ++ [.actionFailed name e] }
      | (.panic m, world) => .inl ⟨.error ⟨m⟩, p.waiting, world, p.notices⟩
  | .act f rest => .inr { p with current := some ⟨name, rest⟩, world := f p.world }
  | .push inner routine rest =>
      .inr { p with current := some ⟨name, rest⟩, waiting := ⟨inner, routine⟩ :: p.waiting }
  | .size f rest =>
      .inr { p with current := some ⟨name, rest⟩, world := f p.waiting.length p.world }
  | .run f rest =>
      .inr { p with failed := 0, current := none, outer := ⟨p.failed, name, f, rest⟩ :: p.outer }

def proceed (p : Progress σ) : Ended σ ⊕ Progress σ :=
  match p.waiting with
  | action :: waiting => .inr { p with current := some action, waiting }
  | [] =>
      match p.outer with
      | [] => .inl ⟨.ok p.failed, [], p.world, p.notices⟩
      | s :: outer =>
          .inr { p with
            failed := s.failed
            current := some ⟨s.name, s.rest⟩
            outer
            world := s.resume p.failed p.world }

def step (p : Progress σ) : Ended σ ⊕ Progress σ :=
  match p.current with
  | some action => p.execute action.name action.routine
  | none => p.proceed

def waitingWeight : List (Action σ) → Nat
  | [] => 0
  | a :: rest => a.weight + waitingWeight rest

def outerWeight : List (Suspended σ) → Nat
  | [] => 0
  | s :: rest => s.rest.weight + 1 + outerWeight rest

def currentWeight : Option (Action σ) → Nat
  | none => 0
  | some a => a.routine.weight

def weight (p : Progress σ) : Nat :=
  currentWeight p.current + outerWeight p.outer + waitingWeight p.waiting

theorem weight_lt_of_execute {p q : Progress σ} {name : String} {r : Routine σ}
    (hc : p.current = some ⟨name, r⟩) (h : p.execute name r = .inr q) : q.weight < p.weight := by
  cases r with
  | finish f =>
      simp only [execute] at h
      split at h
      · obtain rfl := Sum.inr.inj h
        simp [weight, currentWeight, hc, Routine.weight]
      · obtain rfl := Sum.inr.inj h
        simp [weight, currentWeight, hc, Routine.weight]
      · cases h
  | act f rest =>
      obtain rfl := Sum.inr.inj h
      simp [weight, currentWeight, hc, Routine.weight]
  | push inner routine rest =>
      obtain rfl := Sum.inr.inj h
      simp [weight, currentWeight, waitingWeight, hc, Routine.weight, Action.weight]
      omega
  | size f rest =>
      obtain rfl := Sum.inr.inj h
      simp [weight, currentWeight, hc, Routine.weight]
  | run f rest =>
      obtain rfl := Sum.inr.inj h
      simp [weight, currentWeight, outerWeight, hc, Routine.weight]

theorem weight_lt_of_proceed {p q : Progress σ} (hc : p.current = none)
    (h : p.proceed = .inr q) : q.weight < p.weight := by
  simp only [proceed] at h
  split at h
  · rename_i action waiting hw
    obtain rfl := Sum.inr.inj h
    simp [weight, currentWeight, waitingWeight, hc, hw, Action.weight]
    omega
  · rename_i hw
    split at h
    · cases h
    · rename_i s outer ho
      obtain rfl := Sum.inr.inj h
      simp [weight, currentWeight, outerWeight, waitingWeight, hc, hw, ho]

theorem weight_lt_of_step {p q : Progress σ} (h : p.step = .inr q) : q.weight < p.weight := by
  simp only [step] at h
  split at h
  · rename_i action hc
    exact weight_lt_of_execute hc h
  · rename_i hc
    exact weight_lt_of_proceed hc h

def finish (p : Progress σ) : Ended σ :=
  match h : p.step with
  | .inl ended => ended
  | .inr next =>
      have : next.weight < p.weight := weight_lt_of_step h
      next.finish
termination_by p.weight

end Progress

def run (t : Teardown σ) (w : σ) : Ended σ :=
  Progress.finish ⟨0, none, [], t.waiting, w, []⟩

def Ended.chain (e : Ended σ) : Teardown σ := ⟨e.waiting⟩

end LiveConfig.Teardown
