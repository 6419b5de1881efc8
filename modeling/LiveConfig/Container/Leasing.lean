import LiveConfig.Container.Basic
/-!
Leases on the objects of a container, and its end.

A lease names the generation of its object. New leases are on the current object; the one that
comes back may be the last that an object waits for. The first close stops new leases at once and
closes the current object as soon as nobody leases it.
-/

set_option autoImplicit false

namespace LiveConfig

variable {R C σ : Type}

/-- The answer to a close: the object may still be leased. -/
inductive CloseResult where
  | pending
  | done (outcome : Outcome ContainerError Unit)
deriving DecidableEq, Repr

namespace Container

/-- Leases the current object; the answer is its generation. -/
def lease? (c : Container R C) : Except ContainerError (Nat × Container R C) :=
  if c.isClosed then .error .closed
  else .ok (c.generation, { c with current := { c.current with leases := c.leases + 1 } })

/-- What one who takes an open container for granted is told of a closed one. -/
def leasePanic (c : Container R C) (e : ContainerError) : String :=
  "checkout on container '" ++ c.name ++ "': " ++ e.message

def finishClose (cb : Callbacks R C σ) (c : Container R C) (w : σ) :
    Step R C σ (Outcome ContainerError Unit) :=
  let (outcome, object, w) := cb.close c.current.object w
  ⟨outcome.mapError .close, { c with current := { c.current with object }, phase := .closed }, w,
    [.closed c.generation false outcome]⟩

def close (cb : Callbacks R C σ) (c : Container R C) (w : σ) : Step R C σ CloseResult :=
  if c.isClosed then ⟨.done (.error .alreadyClosed), c, w, []⟩
  else if c.leases = 0 then
    let s := finishClose cb c w
    ⟨.done s.result, s.container, s.world, s.closings⟩
  else ⟨.pending, { c with phase := .draining }, w, []⟩

def returned (slot : Slot R C) : Slot R C := { slot with leases := slot.leases - 1 }

/-- Returns one lease on the slot of a generation among replaced slots; the slot that nobody
leases any more is taken out. -/
def returnTo (generation : Nat) : List (Slot R C) → List (Slot R C) × Option (Slot R C)
  | [] => ([], none)
  | slot :: rest =>
      if slot.generation = generation then
        let slot := returned slot
        if slot.leases = 0 then (rest, some slot) else (slot :: rest, none)
      else
        let (rest, drained) := returnTo generation rest
        (slot :: rest, drained)

/-- Returns a lease. If a close waited for it, the answer is how that close ended. -/
def giveBack (cb : Callbacks R C σ) (c : Container R C) (generation : Nat) (w : σ) :
    Step R C σ (Option CloseResult) :=
  if c.generation = generation then
    let c := { c with current := returned c.current }
    if c.phase = .draining ∧ c.leases = 0 then
      let s := finishClose cb c w
      ⟨some (.done s.result), s.container, s.world, s.closings⟩
    else ⟨none, c, w, []⟩
  else
    let (superseded, drained) := returnTo generation c.superseded
    let c := { c with superseded }
    match drained with
    | none => ⟨none, c, w, []⟩
    | some slot =>
        if slot.generation ∈ c.stranded then ⟨none, c, w, []⟩
        else
          let (outcome, _, w) := cb.close slot.object w
          ⟨none, c, w, [.closed slot.generation true outcome]⟩

end Container

end LiveConfig
