import LiveConfig.Outcome
import LiveConfig.Text.Summary
/-!
Containers: one current object of a kind, made from a config and replaced when the config asks
for it.

A *slot* is an object with the config in force for it and the number of leases on it. The current
slot takes new leases; slots that were replaced stay until their last lease comes back. A thread
waits for that and closes the object; where no thread could be started, the object is left unclosed.
A config snapshot carries a stamp, so that two equal configs installed one after the other are told
apart.
-/

set_option autoImplicit false

namespace LiveConfig

/-- What a freshly fetched config asks of the current object. -/
inductive Decision where
  /-- Nothing has to change. -/
  | keep
  /-- The object can take the change in place. -/
  | reset
  /-- A new object is needed. -/
  | replace
deriving DecidableEq, Repr, Inhabited

/-- The steps of a container that are supplied from outside. -/
inductive CallbackName where
  | fetch | compare | construct | reset
deriving DecidableEq, Repr

def CallbackName.text : CallbackName → String
  | fetch => "fetch"
  | compare => "compare"
  | construct => "construct"
  | reset => "reset"

/-- Why an operation of a container fails. -/
inductive ContainerError where
  | closed
  | alreadyClosed
  | missing (callback : CallbackName)
  | fetch (reason : String)
  | compare (reason : String)
  | construct (reason : String)
  | reset (reason : String)
  | close (reason : String)
deriving DecidableEq, Repr

def ContainerError.message : ContainerError → String
  | closed => "container is closed"
  | alreadyClosed => "container is already closed"
  | missing callback => callback.text ++ " callback is not set"
  | fetch reason => "fetch config: " ++ reason
  | compare reason => "compare config: " ++ reason
  | construct reason => "construct object: " ++ reason
  | reset reason => "reset object: " ++ reason
  | close reason => "close object: " ++ reason

structure Snapshot (C : Type) where
  stamp : Nat
  value : C
deriving DecidableEq, Repr

/-- An object, the config in force for it, and the number of leases on it. -/
structure Slot (R C : Type) where
  object : R
  config : Snapshot C
  generation : Nat
  leases : Nat
deriving DecidableEq, Repr

/-- Whether a container serves: after the first close it drains its current object, and then is
closed for good. -/
inductive Phase where
  | serving | draining | closed
deriving DecidableEq, Repr

/-- A container: its current slot, the replaced slots that are still leased, and the number of
snapshots installed so far. The generations of `stranded` were replaced, and no thread closes their
objects. -/
structure Container (R C : Type) where
  name : String
  current : Slot R C
  superseded : List (Slot R C)
  phase : Phase
  stamps : Nat
  stranded : List Nat := []

/-- What a callback sees of its container. -/
structure View (C : Type) where
  generation : Nat
  leases : Nat
  config : C

/-- The callbacks of a container over a world `σ`. Any of them may end in any way, and each
returns the object and the world as it leaves them. During the first build there is no container
to see. The last one is the world's own. -/
structure Callbacks (R C σ : Type) where
  fetch : Option (View C) → σ → Outcome String C × σ
  compare : Option (View C → C → C → σ → Outcome String Decision × σ)
  construct : Option (View C) → C → σ → Outcome String R × σ
  reset : Option (View C → R → C → C → σ → Outcome String Unit × R × σ)
  close : R → σ → Outcome String Unit × R × σ
  /-- Starts the thread that closes a replaced object, or says why there is none. -/
  spawn : R → σ → Except String Unit × σ

/-- A container before it is made: its name and its callbacks, of which some may be absent. -/
structure Draft (R C σ : Type) where
  name : String
  fetch : Option (Option (View C) → σ → Outcome String C × σ)
  compare : Option (View C → C → C → σ → Outcome String Decision × σ)
  construct : Option (Option (View C) → C → σ → Outcome String R × σ)
  reset : Option (View C → R → C → C → σ → Outcome String Unit × R × σ)
  close : R → σ → Outcome String Unit × R × σ
  spawn : R → σ → Except String Unit × σ

/-- What became of an object that went out of service: it was closed, in the background if it had
been superseded, or there was no thread to close it. -/
inductive Closing where
  | closed (generation : Nat) (background : Bool) (outcome : Outcome String Unit)
  | stranded (generation : Nat) (reason : String)
deriving DecidableEq, Repr

/-- The result of a step, what it leaves, and what became of the objects it took out of service. -/
structure Step (R C σ ρ : Type) where
  result : ρ
  container : Container R C
  world : σ
  closings : List Closing

/-- The summary of a lease on a slot; `object` is that of its object. -/
def Slot.leaseSummary {R C : Type} (s : Slot R C) (object : String) : String :=
  Text.summary "Lease" [("resource", object), ("generation", toString s.generation)] true

namespace Container

variable {R C σ : Type}

def config (c : Container R C) : C := c.current.config.value

def generation (c : Container R C) : Nat := c.current.generation

def leases (c : Container R C) : Nat := c.current.leases

def isClosed (c : Container R C) : Bool := c.phase ≠ .serving

def view (c : Container R C) : View C := ⟨c.generation, c.leases, c.config⟩

/-- The slot of a generation, if it is current or still leased. -/
def slot? (c : Container R C) (generation : Nat) : Option (Slot R C) :=
  if c.current.generation = generation then some c.current
  else c.superseded.find? (·.generation = generation)

/-- The summary of a container; `describe` is that of a config. -/
def summary (describe : C → String) (c : Container R C) : String :=
  Text.summary "Container"
    [("name", Text.quote c.name), ("config", describe c.config),
      ("generation", toString c.generation), ("leases", toString c.leases),
      ("closed", Text.ofBool c.isClosed)] true

end Container

end LiveConfig
