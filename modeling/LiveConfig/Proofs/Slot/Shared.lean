import LiveConfig.Proofs.Container.Leases
import Mathlib.Data.Fin.Basic
import Mathlib.Logic.Function.Basic
/-!
A slot in the hands of many threads, step by step.

Threads take leases and return them while one more thread drains the slot. Every access to what they
share is a step: the counter of leases, the mark that the slot is retired, the lock of the waiter,
the condition that the drainer sleeps on. Steps of different threads may follow each other in any
order. A call that nobody interrupts does what the operations of a container do.
-/

set_option autoImplicit false

namespace LiveConfig

variable {R C : Type} {n : Nat}

/-- What a thread that returns a lease does next. -/
inductive ReturnStage where
  | subtracting
  /-- It took the counter to zero, and looks whether the slot is retired. -/
  | looking
  | locking
  | notifying
  | unlocking
deriving DecidableEq, Repr

/-- Where a thread stands. One that wants a lease counts it first and then looks whether the slot is
retired; if it is, the thread is refused and returns what it counted. -/
inductive Spot where
  | outside
  | counted
  | returning (stage : ReturnStage) (refused : Bool)
deriving DecidableEq, Repr

/-- A thread, with the number of leases that it was given and has not begun to return. -/
structure Worker where
  held : Nat := 0
  spot : Spot := .outside
deriving DecidableEq, Repr

inductive DrainStage where
  | retiring
  | locking
  | testing
  /-- It saw leases, and goes to sleep, which frees the lock. -/
  | parking
  | asleep
  | unlocking
  | returned
deriving DecidableEq, Repr

/-- Who can have the lock of the waiter. -/
inductive Party (n : Nat) where
  | thread (i : Fin n)
  | drainer
deriving DecidableEq, Repr

/-- A slot, what threads share beside it, and where each of them stands. The answers are those of
the calls for a lease that are over. -/
structure SharedSlot (R C : Type) (n : Nat) where
  slot : Slot R C
  retired : Bool := false
  waiter : Option (Party n) := none
  threads : Fin n → Worker := fun _ => {}
  drainer : DrainStage := .retiring
  answers : List Bool := []

inductive SlotMove (n : Nat) where
  /-- A thread calls for a lease. -/
  | acquire (i : Fin n)
  /-- A thread begins to return a lease. -/
  | giveBack (i : Fin n)
  /-- A lease changes hands. -/
  | pass (i j : Fin n)
  /-- The call of a thread goes on. -/
  | go (i : Fin n)
  | drain
  /-- The drainer wakes up for no reason. -/
  | wake

namespace SharedSlot

def start (n : Nat) (slot : Slot R C) : SharedSlot R C n := { slot := { slot with leases := 0 } }

def put (s : SharedSlot R C n) (i : Fin n) (t : Worker) : SharedSlot R C n :=
  { s with threads := Function.update s.threads i t }

def finish (s : SharedSlot R C n) (i : Fin n) (refused : Bool) : SharedSlot R C n :=
  { s.put i { s.threads i with spot := .outside } with
    answers := if refused then s.answers ++ [false] else s.answers }

def wakeUp (s : SharedSlot R C n) : SharedSlot R C n :=
  { s with drainer := if s.drainer = .asleep then .locking else s.drainer }

def goBack (s : SharedSlot R C n) (i : Fin n) (refused : Bool) : ReturnStage → SharedSlot R C n
  | .subtracting =>
      let after := { s with slot := Container.returned s.slot }
      if s.slot.leases = 1 then after.put i { s.threads i with spot := .returning .looking refused }
      else after.finish i refused
  | .looking =>
      if s.retired then s.put i { s.threads i with spot := .returning .locking refused }
      else s.finish i refused
  | .locking =>
      if s.waiter = none then
        { s.put i { s.threads i with spot := .returning .notifying refused } with
          waiter := some (.thread i) }
      else s
  | .notifying => s.wakeUp.put i { s.threads i with spot := .returning .unlocking refused }
  | .unlocking => { s.finish i refused with waiter := none }

def go (s : SharedSlot R C n) (i : Fin n) : SharedSlot R C n :=
  match (s.threads i).spot with
  | .outside => s
  | .counted =>
      if s.retired then s.put i { s.threads i with spot := .returning .subtracting true }
      else { s.put i ⟨(s.threads i).held + 1, .outside⟩ with answers := s.answers ++ [true] }
  | .returning stage refused => s.goBack i refused stage

def drain (s : SharedSlot R C n) : SharedSlot R C n :=
  match s.drainer with
  | .retiring => { s with retired := true, drainer := .locking }
  | .locking =>
      if s.waiter = none then { s with waiter := some .drainer, drainer := .testing } else s
  | .testing => { s with drainer := if s.slot.leases = 0 then .unlocking else .parking }
  | .parking => { s with waiter := none, drainer := .asleep }
  | .asleep => s
  | .unlocking => { s with waiter := none, drainer := .returned }
  | .returned => s

def move (s : SharedSlot R C n) : SlotMove n → SharedSlot R C n
  | .acquire i =>
      if (s.threads i).spot = .outside then
        { s.put i { s.threads i with spot := .counted } with
          slot := { s.slot with leases := s.slot.leases + 1 } }
      else s
  | .giveBack i =>
      if (s.threads i).spot = .outside ∧ 0 < (s.threads i).held then
        s.put i ⟨(s.threads i).held - 1, .returning .subtracting false⟩
      else s
  | .pass i j =>
      if 0 < (s.threads i).held then
        let after := s.put i { s.threads i with held := (s.threads i).held - 1 }
        after.put j { after.threads j with held := (after.threads j).held + 1 }
      else s
  | .go i => s.go i
  | .drain => s.drain
  | .wake => s.wakeUp

def after (s : SharedSlot R C n) (moves : List (SlotMove n)) : SharedSlot R C n :=
  moves.foldl move s

theorem after_induction {P : SharedSlot R C n → Prop} (keeps : ∀ s m, P s → P (s.move m))
    {s : SharedSlot R C n} (start : P s) (moves : List (SlotMove n)) : P (s.after moves) := by
  induction moves generalizing s with
  | nil => exact start
  | cons m rest ih => exact ih (keeps s m start)

/-! ### Calls without other steps in between -/

variable {s : SharedSlot R C n} {i : Fin n} {c : Container R C}

/-- A lease is taken as the container takes it. -/
theorem acquire_alone (hslot : s.slot = c.current) (houtside : (s.threads i).spot = .outside)
    (hretired : s.retired = false) :
    (s.after [.acquire i, .go i]).slot = c.leased.current ∧
      (s.after [.acquire i, .go i]).answers = s.answers ++ [true] := by
  simp [after, move, go, put, houtside, hretired, hslot, Container.leased]

theorem giveBack_alone (hslot : s.slot = c.current) (houtside : (s.threads i).spot = .outside)
    (hheld : 0 < (s.threads i).held) :
    (s.after [.giveBack i, .go i]).slot = c.unleased.current := by
  simp only [after, List.foldl_cons, List.foldl_nil, move, houtside, hheld, and_self, if_true, go,
    put, Function.update_self, goBack, finish, hslot, Container.unleased]
  split <;> rfl

end SharedSlot

end LiveConfig
