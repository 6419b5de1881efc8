import LiveConfig.Text.Summary
import LiveConfig.Outcome
/-!
Teardown chains: named actions that run newest first when a process ends.

An action is a routine over a world. While it runs it may push further actions and may run the
chain itself, so a routine is written as the list of what it does, and its end is how the action
went. The weight of a routine bounds the number of steps that it can cause.
-/

set_option autoImplicit false

namespace LiveConfig

/-- What an action does, in order, over a world `σ`. -/
inductive Routine (σ : Type) where
  /-- Ends the action. -/
  | finish (f : σ → Outcome String Unit × σ)
  /-- Changes the world. -/
  | act (f : σ → σ) (rest : Routine σ)
  /-- Pushes an action onto the chain. -/
  | push (name : String) (routine rest : Routine σ)
  /-- Looks at the number of actions on the chain. -/
  | size (f : Nat → σ → σ) (rest : Routine σ)
  /-- Runs the chain, and looks at the number of failures. -/
  | run (f : Nat → σ → σ) (rest : Routine σ)

structure Action (σ : Type) where
  name : String
  routine : Routine σ

/-- A chain of actions, the newest first. -/
structure Teardown (σ : Type) where
  waiting : List (Action σ) := []

/-- A bound on the number of steps that a routine and the actions that it pushes take. -/
def Routine.weight {σ : Type} : Routine σ → Nat
  | finish _ => 1
  | act _ rest => rest.weight + 1
  | push _ routine rest => routine.weight + rest.weight + 2
  | size _ rest => rest.weight + 1
  | run _ rest => rest.weight + 2

def Action.weight {σ : Type} (a : Action σ) : Nat := a.routine.weight + 1

namespace Teardown

variable {σ : Type}

def push (t : Teardown σ) (name : String) (routine : Routine σ) : Teardown σ :=
  ⟨⟨name, routine⟩ :: t.waiting⟩

def size (t : Teardown σ) : Nat := t.waiting.length

def isEmpty (t : Teardown σ) : Bool := t.waiting.isEmpty

def names (t : Teardown σ) : List String := (t.waiting.map (·.name)).reverse

def summary (t : Teardown σ) : String :=
  Text.summary "Shutdown" [("actions", Text.quotedList t.names)] false

end Teardown

end LiveConfig
