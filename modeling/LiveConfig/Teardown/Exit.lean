import LiveConfig.Teardown.Run
/-!
Ending a process through its teardown chain.

The chain runs first. The status is then the code that was asked for, of which a process keeps the
low eight bits, unless an action panicked. At a termination signal a task of its own runs the
chain, so a panic there ends no more than that task.
-/

set_option autoImplicit false

namespace LiveConfig

def exitStatus (code : Int) : Nat := (code % 256).toNat

def panicStatus : Nat := 101

/-- How a process ended: its status, what it wrote to the error stream at the end, and the world it
left. -/
structure Exit (σ : Type) where
  status : Nat
  message : String
  world : σ

namespace Teardown

variable {σ : Type}

/-- Runs the chain and then exits with a code, after writing a message to the error stream. -/
def exitWith (t : Teardown σ) (code : Int) (message : String) (w : σ) : Exit σ :=
  let ended := t.run w
  match ended.result with
  | .ok _ => ⟨exitStatus code, message, ended.world⟩
  | .error _ => ⟨panicStatus, "", ended.world⟩

def exit (t : Teardown σ) (code : Int) (w : σ) : Exit σ := t.exitWith code "" w

def exitBecause (t : Teardown σ) (error : String) (w : σ) : Exit σ := t.exitWith 1 (error ++ "\n") w

/-- Runs the chain and then exits, as the first termination signal asks. A process whose chain
panics has nothing left to do and ends as well. -/
def exitAtSignal (t : Teardown σ) (w : σ) : Exit σ := ⟨exitStatus 0, "", (t.run w).world⟩

end Teardown

end LiveConfig
