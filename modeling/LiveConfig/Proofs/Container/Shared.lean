import LiveConfig.Proofs.Container.Exits
import LiveConfig.Proofs.Slot.Shared
/-!
A container in the hands of many threads, step by step.

Threads lease the current object and return leases while others update and close the container. The
slots are slots that threads share; what the container has beside them is which slot is current,
whether it is closed, and the lock of updates and closes. Every access to any of these is a step, and
steps of different threads may follow each other in any order. How and when a callback ends is left
open; what it does with the container itself counts as what another thread does. A superseded slot
is drained by a thread of its own. A call that nobody interrupts does what the container does.
-/

set_option autoImplicit false

namespace LiveConfig

variable {R C σ : Type} {n : Nat}

/-- What a thread that wants a lease does next. -/
inductive LeaseStage where
  /-- It looks whether the container is closed. -/
  | testing
  /-- It looks which slot is current. -/
  | loading
  | counting (generation : Nat)
  /-- It is at a slot, which gives it a lease or refuses it. -/
  | trying (generation : Nat)
deriving DecidableEq, Repr

/-- A call for a lease, with the number of changes of the container that it found when it began and
the number of rounds that it has begun. -/
structure LeaseCall where
  began : Nat
  rounds : Nat := 1
  stage : LeaseStage := .testing
deriving DecidableEq, Repr

/-- What a thread that updates the container does next. -/
inductive UpdateStage (R C : Type) where
  | locking
  | testing
  | fetching
  /-- It has fetched a config, and looks which slot is current. -/
  | loading (new : C)
  | comparing (new : C) (generation : Nat)
  | resetting (new : C) (generation : Nat)
  | adopting (new : C) (generation : Nat)
  | constructing (new : C) (generation : Nat)
  | swapping (object : R) (new : C) (generation : Nat)
  /-- It has superseded a slot, and starts a thread that drains it. -/
  | disposing (generation : Nat)
  | leaving (result : Outcome ContainerError Decision)
deriving DecidableEq, Repr

/-- What a thread that closes the container does next. -/
inductive CloseStage where
  | locking
  | swapping
  /-- The container was closed before. -/
  | refusing
  | loading
  | unlocking (generation : Nat)
  | draining (generation : Nat)
  /-- Nobody leases the object any more, and it is being closed. -/
  | closing (generation : Nat)
deriving DecidableEq, Repr

/-- What a thread does with a container. -/
inductive ContainerCall (R C : Type) where
  | outside
  | lease (c : LeaseCall)
  | release (generation : Nat)
  | update (stage : UpdateStage R C)
  | close (stage : CloseStage)
deriving DecidableEq, Repr

/-- What a call has come to. A call for a lease that found the container closed has none; with the
answer stand the rounds that it took. -/
inductive CallAnswer where
  | leased (lease : Option Nat) (rounds : Nat)
  | released
  | updated (result : Outcome ContainerError Decision)
  | closed (outcome : Outcome ContainerError Unit)
deriving DecidableEq, Repr

/-- What a callback or the closing of an object comes back with. -/
inductive CallbackReply (R C : Type) where
  | fetched (new : C)
  | compared (d : Decision)
  | reset
  | constructed (object : R)
  | closed (outcome : Outcome String Unit)
  | failed (f : CallFailure)

/-- How far the thread that drains a superseded slot has come. -/
inductive Disposal where
  | absent | running | over
deriving DecidableEq, Repr

/-- A container, what threads share beside it, and what each of them does. A slot stands under its
generation; a generation that does not exist yet has the first slot in its place. -/
structure SharedContainer (R C : Type) (n : Nat) where
  slots : Nat → SharedSlot R C n
  current : Nat
  stamps : Nat
  closed : Bool := false
  lock : Option (Fin n) := none
  /-- Whether the callbacks that a container may lack are there. -/
  supplied : CallbackName → Bool
  disposals : Nat → Disposal := fun _ => .absent
  calls : Fin n → ContainerCall R C := fun _ => .outside
  answers : List (Fin n × CallAnswer) := []
  closings : List Closing := []

inductive ContainerMove (R C : Type) (n : Nat) where
  | lease (i : Fin n)
  /-- A thread begins to return a lease on a slot. -/
  | release (i : Fin n) (generation : Nat)
  | update (i : Fin n)
  | close (i : Fin n)
  /-- A lease on a slot changes hands. -/
  | pass (i j : Fin n) (generation : Nat)
  /-- The call of a thread goes on. -/
  | go (i : Fin n)
  /-- The reset callback, or the closing of the object, that a thread runs changes the object. -/
  | touch (i : Fin n) (object : R)
  /-- The callback that a thread runs comes back. -/
  | reply (i : Fin n) (r : CallbackReply R C)
  /-- No thread can be had that would drain a superseded slot. -/
  | abandon (i : Fin n)
  /-- The thread that drains a superseded slot goes on. -/
  | dispose (generation : Nat)
  /-- A drained superseded object has been closed. -/
  | discard (generation : Nat) (outcome : Outcome String Unit)
  /-- Whoever drains a slot wakes up for no reason. -/
  | wake (generation : Nat)

namespace SharedContainer

def start (n : Nat) (slot : Slot R C) (supplied : CallbackName → Bool) : SharedContainer R C n where
  slots := fun _ => .start n slot
  current := slot.generation
  stamps := slot.config.stamp + 1
  supplied := supplied

/-- The replacements and closes so far, counted from the first generation: a replacement counts the
generation up, and there is one close. -/
def changes (s : SharedContainer R C n) : Nat := s.current + s.closed.toNat

def put (s : SharedContainer R C n) (i : Fin n) (call : ContainerCall R C) :
    SharedContainer R C n :=
  { s with calls := Function.update s.calls i call }

def onSlot (s : SharedContainer R C n) (generation : Nat) (m : SlotMove n) : SharedContainer R C n :=
  { s with slots := Function.update s.slots generation ((s.slots generation).move m) }

def answer (s : SharedContainer R C n) (i : Fin n) (a : CallAnswer) : SharedContainer R C n :=
  { s.put i .outside with answers := s.answers ++ [(i, a)] }

def edit (s : SharedContainer R C n) (generation : Nat) (f : Slot R C → Slot R C) :
    SharedContainer R C n :=
  { s with
    slots := Function.update s.slots generation
      { s.slots generation with slot := f (s.slots generation).slot } }

def spot (s : SharedContainer R C n) (generation : Nat) (i : Fin n) : Spot :=
  ((s.slots generation).threads i).spot

/-- The next step of a thread that wants a lease. If the slot refuses it, it begins another
round. -/
def goLease (s : SharedContainer R C n) (i : Fin n) (c : LeaseCall) : SharedContainer R C n :=
  match c.stage with
  | .testing =>
      if s.closed then s.answer i (.leased none c.rounds)
      else s.put i (.lease { c with stage := .loading })
  | .loading => s.put i (.lease { c with stage := .counting s.current })
  | .counting g => (s.onSlot g (.acquire i)).put i (.lease { c with stage := .trying g })
  | .trying g =>
      let after := s.onSlot g (.go i)
      match s.spot g i, after.spot g i with
      | .counted, .outside => after.answer i (.leased (some g) c.rounds)
      | .returning _ _, .outside =>
          after.put i (.lease { c with rounds := c.rounds + 1, stage := .testing })
      | _, _ => after

def goRelease (s : SharedContainer R C n) (i : Fin n) (g : Nat) : SharedContainer R C n :=
  let after := s.onSlot g (.go i)
  if after.spot g i = .outside then after.answer i .released else after

/-- The next step of a thread that updates the container, unless it waits for a callback. -/
def goUpdate (s : SharedContainer R C n) (i : Fin n) : UpdateStage R C → SharedContainer R C n
  | .locking => if s.lock = none then { s.put i (.update .testing) with lock := some i } else s
  | .testing =>
      if s.closed then s.put i (.update (.leaving (.error .closed)))
      else if s.supplied .compare then s.put i (.update .fetching)
      else s.put i (.update (.leaving (.error (.missing .compare))))
  | .loading new => s.put i (.update (.comparing new s.current))
  | .adopting new g =>
      { (s.edit g fun slot => { slot with config := ⟨s.stamps, new⟩ }).put i
          (.update (.leaving (.ok .reset))) with
        stamps := s.stamps + 1 }
  | .swapping object new g =>
      { s.put i (.update (.disposing g)) with
        slots := Function.update s.slots (g + 1) (.start n ⟨object, ⟨s.stamps, new⟩, g + 1, 0⟩)
        current := g + 1
        stamps := s.stamps + 1 }
  | .disposing g =>
      { s.put i (.update (.leaving (.ok .replace))) with
        disposals := Function.update s.disposals g .running }
  | .leaving result => { s.answer i (.updated result) with lock := none }
  | .fetching | .comparing .. | .resetting .. | .constructing .. => s

/-- The next step of a thread that closes the container, unless it waits for the object to close. -/
def goClose (s : SharedContainer R C n) (i : Fin n) : CloseStage → SharedContainer R C n
  | .locking => if s.lock = none then { s.put i (.close .swapping) with lock := some i } else s
  | .swapping =>
      if s.closed then s.put i (.close .refusing)
      else { s.put i (.close .loading) with closed := true }
  | .refusing => { s.answer i (.closed (.error .alreadyClosed)) with lock := none }
  | .loading => s.put i (.close (.unlocking s.current))
  | .unlocking g => { s.put i (.close (.draining g)) with lock := none }
  | .draining g =>
      let after := s.onSlot g .drain
      if (after.slots g).drainer = .returned then after.put i (.close (.closing g)) else after
  | .closing _ => s

def go (s : SharedContainer R C n) (i : Fin n) : SharedContainer R C n :=
  match s.calls i with
  | .outside => s
  | .lease c => s.goLease i c
  | .release g => s.goRelease i g
  | .update stage => s.goUpdate i stage
  | .close stage => s.goClose i stage

def decide (s : SharedContainer R C n) (new : C) (g : Nat) : Decision → UpdateStage R C
  | .keep => .leaving (.ok .keep)
  | .reset =>
      if s.supplied .reset then .resetting new g else .leaving (.error (.missing .reset))
  | .replace => .constructing new g

def resume (s : SharedContainer R C n) : UpdateStage R C → CallbackReply R C → UpdateStage R C
  | .fetching, .fetched new => .loading new
  | .fetching, .failed f => .leaving (f.surfaced .fetch)
  | .comparing new g, .compared d => s.decide new g d
  | .comparing _ _, .failed f => .leaving (f.surfaced .compare)
  | .resetting new g, .reset => .adopting new g
  | .resetting _ _, .failed f => .leaving (f.surfaced .reset)
  | .constructing new g, .constructed object => .swapping object new g
  | .constructing _ _, .failed f => .leaving (f.surfaced .construct)
  | stage, _ => stage

def move (s : SharedContainer R C n) : ContainerMove R C n → SharedContainer R C n
  | .lease i =>
      match s.calls i with
      | .outside => s.put i (.lease { began := s.changes })
      | _ => s
  | .release i g =>
      match s.calls i with
      | .outside =>
          if 0 < ((s.slots g).threads i).held then (s.onSlot g (.giveBack i)).put i (.release g)
          else s
      | _ => s
  | .update i =>
      match s.calls i with
      | .outside => s.put i (.update .locking)
      | _ => s
  | .close i =>
      match s.calls i with
      | .outside => s.put i (.close .locking)
      | _ => s
  | .pass i j g => s.onSlot g (.pass i j)
  | .go i => s.go i
  | .touch i object =>
      match s.calls i with
      | .update (.resetting _ g) | .close (.closing g) => s.edit g fun slot => { slot with object }
      | _ => s
  | .reply i r =>
      match s.calls i, r with
      | .update stage, r => s.put i (.update (s.resume stage r))
      | .close (.closing g), .closed outcome =>
          { s.answer i (.closed (outcome.mapError .close)) with
            closings := s.closings ++ [.closed g false outcome] }
      | _, _ => s
  | .abandon i =>
      match s.calls i with
      | .update (.disposing _) => s.put i (.update (.leaving (.ok .replace)))
      | _ => s
  | .dispose g => if s.disposals g = .running then s.onSlot g .drain else s
  | .discard g outcome =>
      if s.disposals g = .running ∧ (s.slots g).drainer = .returned then
        { s with
          disposals := Function.update s.disposals g .over
          closings := s.closings ++ [.closed g true outcome] }
      else s
  | .wake g => s.onSlot g .wake

def after (s : SharedContainer R C n) (moves : List (ContainerMove R C n)) :
    SharedContainer R C n := moves.foldl move s

theorem after_append (s : SharedContainer R C n) (first second : List (ContainerMove R C n)) :
    s.after (first ++ second) = (s.after first).after second :=
  List.foldl_append

theorem after_induction {P : SharedContainer R C n → Prop} (keeps : ∀ s m, P s → P (s.move m))
    {s : SharedContainer R C n} (start : P s) (moves : List (ContainerMove R C n)) :
    P (s.after moves) := by
  induction moves generalizing s with
  | nil => exact start
  | cons m rest ih => exact ih (keeps s m start)

end SharedContainer

end LiveConfig
