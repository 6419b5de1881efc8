import LiveConfig.Proofs.Teardown.Draining
import LiveConfig.Teardown.Exit
import Mathlib.Logic.Function.Basic
/-!
A teardown chain in the hands of many threads, step by step.

Threads push actions, run the chain and exit through it. An exit takes a lock first and keeps it, a
run takes none. To take an action off the chain, all that the action does and its end are steps of
their own, and steps of different threads may follow each other in any order until a thread ends
the process. A run or an exit that nobody interrupts does what it does on a chain of its own.
-/

set_option autoImplicit false

namespace LiveConfig

variable {σ : Type}

/-- How an exit is going to end the process. -/
structure Ending where
  status : Nat
  message : String

open Teardown in
/-- What a thread does with a chain. -/
inductive ChainCall (σ : Type) where
  | outside
  /-- An exit wants the lock. -/
  | locking (e : Ending)
  /-- A run, which is that of an exit if it comes with an ending, with the failures it counted, the
  action it executes and the runs that wait for it. -/
  | running (exit : Option Ending) (failed : Nat) (current : Option (Action σ))
      (outer : List (Suspended σ))
  /-- An exit has found the chain empty. -/
  | leaving (e : Ending)

namespace ChainCall

def exits : ChainCall σ → Bool
  | running (some _) .. | leaving _ => true
  | _ => false

def leaves : ChainCall σ → Bool
  | leaving _ => true
  | _ => false

/-- The names of the actions that the thread has taken off the chain and that are not over. -/
def unfinished : ChainCall σ → List String
  | running _ _ current outer => current.toList.map (·.name) ++ outer.map (·.name)
  | _ => []

theorem exits_of_leaves {c : ChainCall σ} (h : c.leaves = true) : c.exits = true := by
  cases c with
  | leaving e => rfl
  | outside | locking | running => cases h

end ChainCall

/-- A chain, the lock of exits and the threads, with how a thread ended the process, if one did. The
log has what every step of a run has shown and what was pushed from outside. -/
structure SharedTeardown (σ : Type) where
  waiting : List (Action σ)
  world : σ
  notices : List Notice := []
  exiting : Option Nat := none
  threads : Nat → ChainCall σ := fun _ => .outside
  exited : Option (Nat × Exit σ) := none
  log : List (Nat × Teardown.Event σ) := []

inductive ChainMove (σ : Type) where
  | push (thread : Nat) (a : Action σ)
  | run (thread : Nat)
  | exit (thread : Nat) (e : Ending)
  /-- The run or the exit of a thread goes on. -/
  | go (thread : Nat)

def ChainMove.thread : ChainMove σ → Nat
  | push i _ | run i | exit i _ | go i => i

namespace SharedTeardown

open Teardown (Progress Event Ended Suspended NewestFirst)

def start (t : Teardown σ) (w : σ) : SharedTeardown σ := { waiting := t.waiting, world := w }

def put (s : SharedTeardown σ) (i : Nat) (c : ChainCall σ) : SharedTeardown σ :=
  { s with threads := Function.update s.threads i c }

def progress (s : SharedTeardown σ) (failed : Nat) (current : Option (Action σ))
    (outer : List (Suspended σ)) : Progress σ :=
  ⟨failed, current, outer, s.waiting, s.world, s.notices⟩

def carryOn (s : SharedTeardown σ) (i : Nat) (exit : Option Ending) (q : Progress σ) :
    SharedTeardown σ :=
  { s.put i (.running exit q.failed q.current q.outer) with
    waiting := q.waiting
    world := q.world
    notices := q.notices }

/-- The run of a thread is over. A panic ends an exit as well, which gives the lock back. -/
def endRun (s : SharedTeardown σ) (i : Nat) (exit : Option Ending) (ended : Ended σ) :
    SharedTeardown σ :=
  let s := { s with waiting := ended.waiting, world := ended.world, notices := ended.notices }
  match exit, ended.result with
  | none, _ => s.put i .outside
  | some e, .ok _ => s.put i (.leaving e)
  | some _, .error _ => { s.put i .outside with exiting := none }

def go (s : SharedTeardown σ) (i : Nat) : SharedTeardown σ :=
  match s.threads i with
  | .outside => s
  | .locking e =>
      match s.exiting with
      | none => { s.put i (.running (some e) 0 none []) with exiting := some i }
      | some _ => s
  | .running exit failed current outer =>
      let p := s.progress failed current outer
      let s := { s with log := s.log ++ [(i, p.event)] }
      match p.step with
      | .inl ended => s.endRun i exit ended
      | .inr q => s.carryOn i exit q
  | .leaving e => { s with exited := some (i, ⟨e.status, e.message, s.world⟩) }

/-- Makes a move, unless the process has ended. Only a thread that does nothing else with the chain
can push from outside, run or exit. -/
def move (s : SharedTeardown σ) (m : ChainMove σ) : SharedTeardown σ :=
  match s.exited, m, s.threads m.thread with
  | none, .push i a, .outside =>
      { s with waiting := a :: s.waiting, log := s.log ++ [(i, .pushed a)] }
  | none, .run i, .outside => s.put i (.running none 0 none [])
  | none, .exit i e, .outside => s.put i (.locking e)
  | none, .go i, _ => s.go i
  | _, _, _ => s

def after (s : SharedTeardown σ) (moves : List (ChainMove σ)) : SharedTeardown σ :=
  moves.foldl move s

theorem after_induction {P : SharedTeardown σ → Prop} (keeps : ∀ s m, P s → P (s.move m))
    {s : SharedTeardown σ} (start : P s) (moves : List (ChainMove σ)) : P (s.after moves) := by
  induction moves generalizing s with
  | nil => exact start
  | cons m rest ih => exact ih (keeps s m start)

theorem after_append (s : SharedTeardown σ) (first second : List (ChainMove σ)) :
    s.after (first ++ second) = (s.after first).after second :=
  List.foldl_append

/-! ### Runs and exits without steps of other threads in between -/

variable {s : SharedTeardown σ} {i : Nat} {exit : Option Ending} {p q : Progress σ}

structure Shows (s : SharedTeardown σ) (i : Nat) (exit : Option Ending) (p : Progress σ) :
    Prop where
  thread : s.threads i = .running exit p.failed p.current p.outer
  waiting : s.waiting = p.waiting
  world : s.world = p.world
  notices : s.notices = p.notices
  exited : s.exited = none

theorem Shows.progress (h : Shows s i exit p) : s.progress p.failed p.current p.outer = p := by
  rw [SharedTeardown.progress, h.waiting, h.world, h.notices]

theorem Shows.move_last (h : Shows s i exit p) {ended : Ended σ} (hstep : p.step = .inl ended) :
    s.move (.go i) = { s with log := s.log ++ [(i, p.event)] }.endRun i exit ended := by
  simp only [move, h.exited, ChainMove.thread, go, h.thread, h.progress, hstep]

theorem Shows.move_next (h : Shows s i exit p) (hstep : p.step = .inr q) :
    s.move (.go i) = { s with log := s.log ++ [(i, p.event)] }.carryOn i exit q := by
  simp only [move, h.exited, ChainMove.thread, go, h.thread, h.progress, hstep]

theorem Shows.finish {s : SharedTeardown σ} {p : Progress σ} (h : Shows s i exit p) : ∃ k log,
    s.after (List.replicate k (.go i)) = { s with log }.endRun i exit p.finish := by
  rcases hstep : p.step with ended | q
  · refine ⟨1, s.log ++ [(i, p.event)], ?_⟩
    rw [Progress.finish_last hstep]
    exact h.move_last hstep
  · have hlt : q.weight < p.weight := Progress.weight_lt_of_step hstep
    let s₁ := { s with log := s.log ++ [(i, p.event)] }.carryOn i exit q
    have hshows : Shows s₁ i exit q :=
      ⟨Function.update_self i _ s.threads, rfl, rfl, rfl, h.exited⟩
    obtain ⟨k, log, hk⟩ := hshows.finish
    refine ⟨k + 1, log, ?_⟩
    rw [Progress.finish_next hstep, List.replicate_succ, after, List.foldl_cons, h.move_next hstep]
    refine hk.trans ?_
    -- where the thread stood before the end of the run is overwritten by that end
    cases exit with
    | none => simp [endRun, s₁, carryOn, put]
    | some e => cases hresult : q.finish.result <;> simp [endRun, s₁, carryOn, put, hresult]
termination_by p.weight

/-- On a chain that no other thread uses, a run does what a run of the chain does. -/
theorem run_alone (t : Teardown σ) (w : σ) (i : Nat) :
    ∃ moves : List (ChainMove σ), (∀ m ∈ moves, m.thread = i) ∧ ∃ log,
      (start t w).after moves = { (start t w) with
        waiting := (t.run w).waiting
        world := (t.run w).world
        notices := (t.run w).notices
        log } := by
  have hshows : Shows ((start t w).move (.run i)) i none (t.start w) :=
    ⟨Function.update_self .., rfl, rfl, rfl, rfl⟩
  obtain ⟨k, log, hk⟩ := hshows.finish
  refine ⟨.run i :: List.replicate k (.go i), ?_, log, hk.trans ?_⟩
  · simp [ChainMove.thread]
  · rw [Teardown.finish_start]
    simp [endRun, start, move, ChainMove.thread, put]

/-- On a chain that no other thread uses, an exit that no panic ends does what an exit through the
chain does. -/
theorem exit_alone (t : Teardown σ) (w : σ) (i n : Nat) (code : Int) (message : String)
    (hok : (t.run w).result = .ok n) :
    ∃ moves : List (ChainMove σ), (∀ m ∈ moves, m.thread = i) ∧
      ((start t w).after moves).exited = some (i, t.exitWith code message w) := by
  let s₁ := ((start t w).move (.exit i ⟨exitStatus code, message⟩)).move (.go i)
  have hshows : Shows s₁ i (some ⟨exitStatus code, message⟩) (t.start w) := by
    refine ⟨?_, ?_, ?_, ?_, ?_⟩ <;>
      simp [s₁, start, move, ChainMove.thread, go, put, Teardown.start]
  obtain ⟨k, log, hk⟩ := hshows.finish
  refine ⟨[.exit i ⟨exitStatus code, message⟩, .go i] ++ (List.replicate k (.go i) ++ [.go i]), ?_,
    ?_⟩
  · simp only [List.mem_append, List.mem_cons, List.mem_replicate, List.not_mem_nil, or_false]
    rintro m ((rfl | rfl) | ⟨-, rfl⟩ | rfl) <;> rfl
  · rw [after_append, after_append]
    change ((s₁.after (List.replicate k (.go i))).move (.go i)).exited = _
    rw [hk, Teardown.finish_start]
    simp [endRun, hok, move, ChainMove.thread, go, put, s₁, start, Teardown.exitWith]

end SharedTeardown

end LiveConfig
