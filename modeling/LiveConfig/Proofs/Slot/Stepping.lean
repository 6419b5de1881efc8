import LiveConfig.Proofs.Slot.Sound
/-!
What one move at a shared slot leaves as it is.

A step of a thread moves no other thread and leaves the mark of the slot alone; only the drainer
retires the slot.
-/

set_option autoImplicit false

namespace LiveConfig

variable {R C : Type} {n : Nat}

def ReturnStage.depth : ReturnStage → Nat
  | subtracting => 1
  | looking => 2
  | locking => 3
  | notifying => 4
  | unlocking => 5

def Spot.depth : Spot → Nat
  | outside | counted => 0
  | returning stage _ => stage.depth

def DrainStage.underway : DrainStage → Bool
  | retiring | returned => false
  | _ => true

namespace SharedSlot

variable {s : SharedSlot R C n} {m : SlotMove n} {i j : Fin n}

theorem underway_wakeUp (s : SharedSlot R C n) : s.wakeUp.drainer.underway = s.drainer.underway := by
  by_cases hasleep : s.drainer = .asleep <;> simp [wakeUp, hasleep, DrainStage.underway]

/-- The moves that are steps of a thread. -/
inductive IsStepOf (i : Fin n) : SlotMove n → Prop
  | acquire : IsStepOf i (.acquire i)
  | giveBack : IsStepOf i (.giveBack i)
  | go : IsStepOf i (.go i)

theorem goBack_other (hne : j ≠ i) (refused : Bool) (stage : ReturnStage) :
    (s.goBack i refused stage).threads j = s.threads j := by
  cases stage with
  | subtracting | looking | locking =>
      simp only [goBack]
      split <;> simp [put, finish, Function.update_of_ne hne]
  | notifying | unlocking => simp [goBack, put, finish, wakeUp, Function.update_of_ne hne]

theorem retired_goBack (s : SharedSlot R C n) (i : Fin n) (refused : Bool) (stage : ReturnStage) :
    (s.goBack i refused stage).retired = s.retired := by
  cases stage with
  | subtracting | looking | locking =>
      simp only [goBack]
      split <;> rfl
  | notifying | unlocking => rfl

theorem IsStepOf.threads (h : IsStepOf i m) (hne : j ≠ i) : (s.move m).threads j = s.threads j := by
  cases h with
  | acquire | giveBack =>
      simp only [move]
      split <;> simp [put, Function.update_of_ne hne]
  | go =>
      simp only [move, SharedSlot.go]
      split
      · rfl
      · split <;> simp [put, Function.update_of_ne hne]
      · exact goBack_other hne _ _

theorem IsStepOf.retired (h : IsStepOf i m) : (s.move m).retired = s.retired := by
  cases h with
  | acquire | giveBack =>
      simp only [move]
      split <;> rfl
  | go =>
      simp only [move, SharedSlot.go]
      split
      · rfl
      · split <;> rfl
      · exact retired_goBack s i _ _

theorem underway_goBack (s : SharedSlot R C n) (i : Fin n) (refused : Bool) (stage : ReturnStage) :
    (s.goBack i refused stage).drainer.underway = s.drainer.underway := by
  cases stage with
  | subtracting | looking | locking =>
      simp only [goBack]
      split <;> rfl
  | notifying => exact s.underway_wakeUp
  | unlocking => rfl

theorem IsStepOf.underway (h : IsStepOf i m) :
    (s.move m).drainer.underway = s.drainer.underway := by
  cases h with
  | acquire | giveBack =>
      simp only [move]
      split <;> rfl
  | go =>
      simp only [move, SharedSlot.go]
      split
      · rfl
      · split <;> rfl
      · exact underway_goBack s i _ _

theorem own_goBack {stage : ReturnStage} {refused : Bool}
    (hspot : (s.threads i).spot = .returning stage refused) :
    (stage = .locking ∧ s.waiter ≠ none ∧ s.goBack i refused stage = s) ∨
      ((s.goBack i refused stage).threads i).spot = .outside ∨
      ∃ stage', ((s.goBack i refused stage).threads i).spot = .returning stage' refused ∧
        stage.depth < stage'.depth := by
  cases stage with
  | subtracting =>
      by_cases hlast : s.slot.leases = 1
      · exact .inr (.inr ⟨.looking, by simp [goBack, hlast, put], Nat.lt_succ_self _⟩)
      · exact .inr (.inl (by simp [goBack, hlast, put, finish]))
  | looking =>
      by_cases hretired : s.retired = true
      · exact .inr (.inr ⟨.locking, by simp [goBack, hretired, put], Nat.lt_succ_self _⟩)
      · exact .inr (.inl (by simp [goBack, hretired, put, finish]))
  | locking =>
      by_cases hfree : s.waiter = none
      · exact .inr (.inr ⟨.notifying, by simp [goBack, hfree, put], Nat.lt_succ_self _⟩)
      · exact .inl ⟨rfl, hfree, if_neg hfree⟩
  | notifying => exact .inr (.inr ⟨.unlocking, by simp [goBack, put], Nat.lt_succ_self _⟩)
  | unlocking => exact .inr (.inl (by simp [goBack, put, finish]))

inductive IsAside : SlotMove n → Prop
  | pass (i j : Fin n) : IsAside (.pass i j)
  | drain : IsAside .drain
  | wake : IsAside .wake

theorem threads_drain (s : SharedSlot R C n) : s.drain.threads = s.threads := by
  simp only [drain]
  split <;> try rfl
  split <;> rfl

theorem IsAside.spot (h : IsAside m) (j : Fin n) :
    ((s.move m).threads j).spot = (s.threads j).spot := by
  cases h with
  | pass i k =>
      simp only [move]
      split
      · simp only [put]
        rw [spot_update (by rfl) j, spot_update (by rfl) j]
      · rfl
  | drain => exact congrArg (fun t => (t j).spot) s.threads_drain
  | wake => rfl

theorem IsAside.held (h : IsAside m) (hnone : ∀ j, (s.threads j).held = 0) (j : Fin n) :
    ((s.move m).threads j).held = 0 := by
  cases h with
  | pass i k =>
      simp only [move, hnone i, Nat.lt_irrefl, if_false]
      exact hnone j
  | drain => exact (congrArg (fun t => (t j).held) s.threads_drain).trans (hnone j)
  | wake => exact hnone j

theorem IsAside.of_ne_drain (h : IsAside m) (hne : m ≠ .drain) :
    (s.move m).retired = s.retired ∧ (s.move m).drainer.underway = s.drainer.underway := by
  cases h with
  | pass i k =>
      simp only [move]
      split <;> exact ⟨rfl, rfl⟩
  | drain => exact absurd rfl hne
  | wake => exact ⟨rfl, s.underway_wakeUp⟩

def holderMove : Party n → SlotMove n
  | .thread i => .go i
  | .drainer => .drain

/-- Whoever has the lock of the waiter frees it with the next step or the one after. -/
theorem holder_frees (h : Sound s) {p : Party n} (hwaiter : s.waiter = some p) :
    (s.move (holderMove p)).waiter = none ∨ (s.move (holderMove p)).waiter = some p ∧
      ((s.move (holderMove p)).move (holderMove p)).waiter = none := by
  cases p with
  | thread j =>
      have hlocks := (h.locked j).mpr hwaiter
      cases hspot : (s.threads j).spot with
      | outside | counted =>
          rw [hspot] at hlocks
          cases hlocks
      | returning stage refused =>
          rw [hspot] at hlocks
          cases stage with
          | subtracting | looking | locking => cases hlocks
          | notifying =>
              refine .inr ⟨?_, ?_⟩ <;>
                simp [holderMove, move, go, hspot, goBack, put, finish, wakeUp, hwaiter]
          | unlocking =>
              exact .inl (by simp [holderMove, move, go, hspot, goBack])
  | drainer =>
      have hlocks := h.drainerLocked.mpr hwaiter
      cases hstage : s.drainer with
      | retiring | locking | asleep | returned =>
          rw [hstage] at hlocks
          cases hlocks
      | testing =>
          refine .inr ⟨?_, ?_⟩
          · simp [holderMove, move, drain, hstage, hwaiter]
          · by_cases hzero : s.slot.leases = 0 <;>
              simp [holderMove, move, drain, hstage, hzero]
      | parking | unlocking => exact .inl (by simp [holderMove, move, drain, hstage])

theorem retired_move (h : s.retired = true) (m : SlotMove n) : (s.move m).retired = true := by
  cases m with
  | acquire i => exact (IsStepOf.acquire (i := i)).retired.trans h
  | giveBack i => exact (IsStepOf.giveBack (i := i)).retired.trans h
  | go i => exact (IsStepOf.go (i := i)).retired.trans h
  | pass i j =>
      simp only [move]
      split <;> exact h
  | drain =>
      simp only [move, drain]
      split <;> try exact h
      · rfl
      · split <;> exact h
  | wake => exact h

end SharedSlot

end LiveConfig
