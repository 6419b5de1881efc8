import LiveConfig.Proofs.Slot.Shared
import Mathlib.Algebra.Order.BigOperators.Group.Finset
/-!
The invariant of a shared slot.

The counter has one for every lease that a thread was given and one more for every thread that
counted itself and has not taken it back. As long as the drainer is about to sleep or sleeps and the
counter is at zero, there is a thread on its way to wake it: the one that took the counter to zero.
-/

set_option autoImplicit false

namespace LiveConfig

variable {R C : Type} {n : Nat}

namespace ReturnStage

def locks : ReturnStage → Bool
  | notifying | unlocking => true
  | subtracting | looking | locking => false

end ReturnStage

namespace Spot

def isCounted : Spot → Bool
  | counted | returning .subtracting _ => true
  | _ => false

def locks : Spot → Bool
  | returning stage _ => stage.locks
  | outside | counted => false

/-- Whether the thread is on its way to wake the drainer: it took the counter to zero and has not
notified yet. -/
def notifies : Spot → Bool
  | returning .looking _ | returning .locking _ | returning .notifying _ => true
  | _ => false

end Spot

def Worker.weight (t : Worker) : Nat := t.held + t.spot.isCounted.toNat

namespace DrainStage

def locks : DrainStage → Bool
  | testing | parking | unlocking => true
  | retiring | locking | asleep | returned => false

def sleeps : DrainStage → Bool
  | parking | asleep => true
  | _ => false

def drained : DrainStage → Bool
  | unlocking | returned => true
  | _ => false

theorem of_sleeps {stage : DrainStage} (h : stage.sleeps = true) :
    stage = parking ∨ stage = asleep := by
  cases stage with
  | parking => exact .inl rfl
  | asleep => exact .inr rfl
  | retiring | locking | testing | unlocking | returned => exact absurd h nofun

end DrainStage

/-- How a lock changes with a step of a party: the party takes it when it is free, frees it, or
leaves it alone. -/
inductive LockStep {α : Type} (p : α) : Option α → Option α → Bool → Bool → Prop
  | stay {holder : Option α} {has : Bool} : LockStep p holder holder has has
  | take {had : Bool} : LockStep p none (some p) had true
  | free {had : Bool} : LockStep p (some p) none had false

namespace LockStep

variable {α : Type} {p q : α} {before after : Option α} {had has : Bool}

theorem own (h : LockStep p before after had has) (hbefore : had = true ↔ before = some p) :
    has = true ↔ after = some p := by
  cases h with
  | stay => exact hbefore
  | take => simp
  | free => simp

theorem other (h : LockStep p before after had has) (hne : p ≠ q) :
    after = some q ↔ before = some q := by
  cases h with
  | stay => exact Iff.rfl
  | take => simp [hne]
  | free => simp [hne]

end LockStep

namespace SharedSlot

/-- What the counter, the mark, the lock and the positions of all parties have to do with each
other. -/
structure Sound (s : SharedSlot R C n) : Prop where
  counted : s.slot.leases = ∑ i, (s.threads i).weight
  marked : s.retired = true ↔ s.drainer ≠ .retiring
  locked : ∀ i, (s.threads i).spot.locks = true ↔ s.waiter = some (.thread i)
  drainerLocked : s.drainer.locks = true ↔ s.waiter = some .drainer
  empty : s.drainer.drained = true → ∀ i, (s.threads i).held = 0
  awaited : s.drainer.sleeps = true → s.slot.leases = 0 → ∃ i, (s.threads i).spot.notifies = true

theorem wakeUp_ne_asleep (s : SharedSlot R C n) : s.wakeUp.drainer ≠ .asleep := by
  by_cases hasleep : s.drainer = .asleep <;> simp [wakeUp, hasleep]

theorem sum_update (f : Worker → Nat) (threads : Fin n → Worker) (i : Fin n) (t : Worker) :
    (∑ j, f (Function.update threads i t j)) + f (threads i) = (∑ j, f (threads j)) + f t := by
  rw [← Finset.add_sum_erase _ _ (Finset.mem_univ i),
    ← Finset.add_sum_erase _ (fun j => f (threads j)) (Finset.mem_univ i), Function.update_self]
  have hothers : ∑ j ∈ Finset.univ.erase i, f (Function.update threads i t j) =
      ∑ j ∈ Finset.univ.erase i, f (threads j) := by
    refine Finset.sum_congr rfl fun j hj => ?_
    rw [Function.update_of_ne (Finset.ne_of_mem_erase hj)]
  omega

theorem spot_update {threads : Fin n → Worker} {i : Fin n} {t : Worker}
    (h : t.spot = (threads i).spot) (k : Fin n) :
    (Function.update threads i t k).spot = (threads k).spot := by
  by_cases hk : k = i
  · subst hk
    rw [Function.update_self]
    exact h
  · rw [Function.update_of_ne hk]

namespace Sound

variable {s : SharedSlot R C n} {i : Fin n} {t : Worker}

theorem start (n : Nat) (slot : Slot R C) : Sound (SharedSlot.start n slot) where
  counted := by simp [SharedSlot.start, Worker.weight, Spot.isCounted]
  marked := by simp [SharedSlot.start]
  locked := by simp [SharedSlot.start, Spot.locks]
  drainerLocked := by simp [SharedSlot.start, DrainStage.locks]
  empty := nofun
  awaited := nofun

theorem weight_le (h : Sound s) (i : Fin n) : (s.threads i).weight ≤ s.slot.leases := by
  rw [h.counted]
  exact Finset.single_le_sum (f := fun j => (s.threads j).weight) (fun _ _ => Nat.zero_le _)
    (Finset.mem_univ i)

theorem leases_pos (h : Sound s) (hcounted : (s.threads i).spot.isCounted = true) :
    0 < s.slot.leases := by
  have hle := h.weight_le i
  simp only [Worker.weight, hcounted, Bool.toNat_true] at hle
  omega

theorem not_retiring (h : Sound s) (hretired : ¬ s.retired = true) : s.drainer = .retiring := by
  by_contra hne
  exact hretired (h.marked.mpr hne)

theorem placed (h : Sound s) {slot : Slot R C} {waiter : Option (Party n)} {answers : List Bool}
    (hcount : slot.leases + (s.threads i).weight = s.slot.leases + t.weight)
    (hlock : LockStep (.thread i) s.waiter waiter (s.threads i).spot.locks t.spot.locks)
    (hempty : s.drainer.drained = true → t.held = 0)
    (hawaited : s.drainer.sleeps = true → slot.leases = 0 → t.spot.notifies = true ∨
      (s.slot.leases = 0 ∧ (s.threads i).spot.notifies = false)) :
    Sound { s with
      slot := slot
      waiter := waiter
      threads := Function.update s.threads i t
      answers := answers } := by
  refine ⟨?_, h.marked, ?_, ?_, ?_, ?_⟩
  · have hsum := sum_update Worker.weight s.threads i t
    have hbefore := h.counted
    change slot.leases = ∑ j, (Function.update s.threads i t j).weight
    omega
  · intro j
    change (Function.update s.threads i t j).spot.locks = true ↔ waiter = some (.thread j)
    by_cases hji : j = i
    · subst hji
      rw [Function.update_self]
      exact hlock.own (h.locked j)
    · have hne : Party.thread i ≠ .thread j := fun heq => hji (Party.thread.inj heq).symm
      rw [Function.update_of_ne hji, hlock.other hne]
      exact h.locked j
  · change s.drainer.locks = true ↔ waiter = some .drainer
    rw [hlock.other (q := .drainer) nofun]
    exact h.drainerLocked
  · intro hdrained j
    change (Function.update s.threads i t j).held = 0
    by_cases hji : j = i
    · subst hji
      rw [Function.update_self]
      exact hempty hdrained
    · rw [Function.update_of_ne hji]
      exact h.empty hdrained j
  · intro hsleeps hzero
    change ∃ j, (Function.update s.threads i t j).spot.notifies = true
    rcases hawaited hsleeps hzero with hself | ⟨hbefore, hidle⟩
    · refine ⟨i, ?_⟩
      rw [Function.update_self]
      exact hself
    · obtain ⟨j, hj⟩ := h.awaited hsleeps hbefore
      have hji : j ≠ i := by
        rintro rfl
        rw [hidle] at hj
        exact absurd hj nofun
      refine ⟨j, ?_⟩
      rw [Function.update_of_ne hji]
      exact hj

theorem walked (h : Sound s) {spot : Spot} {waiter : Option (Party n)} {answers : List Bool}
    (hcounted : spot.isCounted = (s.threads i).spot.isCounted)
    (hlock : LockStep (.thread i) s.waiter waiter (s.threads i).spot.locks spot.locks)
    (hawaited : s.drainer.sleeps = true →
      spot.notifies = true ∨ (s.threads i).spot.notifies = false) :
    Sound { s with
      waiter := waiter
      threads := Function.update s.threads i { s.threads i with spot := spot }
      answers := answers } := by
  apply h.placed
  · rw [Worker.weight, Worker.weight, hcounted]
  · exact hlock
  · exact fun hdrained => h.empty hdrained i
  · intro hsleeps hzero
    exact (hawaited hsleeps).imp_right fun hidle => ⟨hzero, hidle⟩

theorem drained (h : Sound s) {waiter : Option (Party n)} {stage : DrainStage} {retired : Bool}
    (hmarked : retired = true ↔ stage ≠ .retiring)
    (hlock : LockStep .drainer s.waiter waiter s.drainer.locks stage.locks)
    (hempty : stage.drained = true → s.drainer.drained = true ∨ s.slot.leases = 0)
    (hawaited : stage.sleeps = true → s.drainer.sleeps = true ∨ s.slot.leases ≠ 0) :
    Sound { s with waiter := waiter, drainer := stage, retired := retired } := by
  refine ⟨h.counted, hmarked, ?_, hlock.own h.drainerLocked, ?_, ?_⟩
  · intro i
    change (s.threads i).spot.locks = true ↔ waiter = some (.thread i)
    rw [hlock.other (q := .thread i) nofun]
    exact h.locked i
  · intro hstage i
    rcases hempty hstage with hdrained | hzero
    · exact h.empty hdrained i
    · have hle := h.weight_le i
      rw [hzero, Worker.weight] at hle
      change (s.threads i).held = 0
      omega
  · intro hstage hzero
    rcases hawaited hstage with hsleeps | hleased
    · exact h.awaited hsleeps hzero
    · exact absurd hzero hleased

/-! ### Moves -/

theorem wakeUp (h : Sound s) : Sound s.wakeUp := by
  by_cases hasleep : s.drainer = .asleep
  · simp only [SharedSlot.wakeUp, hasleep, if_true]
    refine h.drained (by simp [h.marked, hasleep]) ?_ nofun nofun
    rw [hasleep]
    exact .stay
  · simp only [SharedSlot.wakeUp, hasleep, if_false]
    exact h

theorem acquire (h : Sound s) (i : Fin n) : Sound (s.move (.acquire i)) := by
  by_cases houtside : (s.threads i).spot = .outside
  · simp only [move, houtside, if_true, put]
    apply h.placed
    · simp [Worker.weight, houtside, Spot.isCounted]
      omega
    · rw [houtside]
      exact .stay
    · exact fun hdrained => h.empty hdrained i
    · exact fun _ hzero => absurd hzero (Nat.succ_ne_zero _)
  · simp only [move, houtside, if_false]
    exact h

theorem giveBack (h : Sound s) (i : Fin n) : Sound (s.move (.giveBack i)) := by
  by_cases hready : (s.threads i).spot = .outside ∧ 0 < (s.threads i).held
  · obtain ⟨houtside, hheld⟩ := hready
    simp only [move, houtside, hheld, and_self, if_true, put]
    apply h.placed
    · simp [Worker.weight, houtside, Spot.isCounted]
      omega
    · rw [houtside]
      exact .stay
    · intro hdrained
      rw [h.empty hdrained i] at hheld
      exact absurd hheld (Nat.lt_irrefl 0)
    · intro _ hzero
      exact .inr ⟨hzero, by rw [houtside]; rfl⟩
  · simp only [move, hready, if_false]
    exact h

theorem pass (h : Sound s) (i j : Fin n) : Sound (s.move (.pass i j)) := by
  by_cases hheld : 0 < (s.threads i).held
  · have hspot : ∀ k, ((s.move (.pass i j)).threads k).spot = (s.threads k).spot := by
      intro k
      simp only [move, hheld, if_true, put]
      rw [spot_update (by rfl) k, spot_update (by rfl) k]
    have hsum : ∑ k, ((s.move (.pass i j)).threads k).weight = ∑ k, (s.threads k).weight := by
      simp only [move, hheld, if_true, put]
      have hfirst := sum_update Worker.weight s.threads i
        { s.threads i with held := (s.threads i).held - 1 }
      have hsecond := sum_update Worker.weight
        (Function.update s.threads i { s.threads i with held := (s.threads i).held - 1 }) j
        { Function.update s.threads i { s.threads i with held := (s.threads i).held - 1 } j with
          held := (Function.update s.threads i
            { s.threads i with held := (s.threads i).held - 1 } j).held + 1 }
      simp only [Worker.weight] at hfirst hsecond ⊢
      omega
    have hrest : (s.move (.pass i j)).slot = s.slot ∧ (s.move (.pass i j)).retired = s.retired ∧
        (s.move (.pass i j)).waiter = s.waiter ∧ (s.move (.pass i j)).drainer = s.drainer := by
      simp [move, hheld, put]
    obtain ⟨hslot, hretired, hwaiter, hdrainer⟩ := hrest
    refine ⟨?_, ?_, ?_, ?_, ?_, ?_⟩
    · rw [hslot, hsum, h.counted]
    · rw [hretired, hdrainer, h.marked]
    · intro k
      rw [hspot, hwaiter, h.locked]
    · rw [hdrainer, hwaiter, h.drainerLocked]
    · intro hdrained
      rw [hdrainer] at hdrained
      rw [h.empty hdrained i] at hheld
      exact absurd hheld (Nat.lt_irrefl 0)
    · rw [hdrainer, hslot]
      intro hsleeps hzero
      obtain ⟨k, hk⟩ := h.awaited hsleeps hzero
      exact ⟨k, (congrArg Spot.notifies (hspot k)).trans hk⟩
  · simp only [move, hheld, if_false]
    exact h

theorem goBack (h : Sound s) {stage : ReturnStage} {refused : Bool}
    (hspot : (s.threads i).spot = .returning stage refused) : Sound (s.goBack i refused stage) := by
  have hlocked := h.locked i
  rw [hspot] at hlocked
  have hkept : s.drainer.drained = true → (s.threads i).held = 0 := fun hd => h.empty hd i
  cases stage with
  | subtracting =>
      have hpos := h.leases_pos (i := i) (by rw [hspot]; rfl)
      by_cases hlast : s.slot.leases = 1
      · -- the counter is at zero now, and this thread looks after the drainer
        simp only [SharedSlot.goBack, hlast, if_true, put]
        apply h.placed
        · simp [Worker.weight, hspot, Spot.isCounted, Container.returned]
          omega
        · rw [hspot]
          exact .stay
        · exact hkept
        · exact fun _ _ => .inl rfl
      · simp only [SharedSlot.goBack, hlast, if_false, finish, put]
        apply h.placed
        · simp [Worker.weight, hspot, Spot.isCounted, Container.returned]
          omega
        · rw [hspot]
          exact .stay
        · exact hkept
        · intro _ hzero
          change s.slot.leases - 1 = 0 at hzero
          omega
  | looking =>
      simp only [SharedSlot.goBack]
      by_cases hretired : s.retired = true
      · rw [if_pos hretired]
        apply h.walked
        · rw [hspot]
          rfl
        · rw [hspot]
          exact .stay
        · exact fun _ => .inl rfl
      · -- nobody drains the slot yet
        rw [if_neg hretired]
        apply h.walked
        · rw [hspot]
          rfl
        · rw [hspot]
          exact .stay
        · rw [h.not_retiring hretired]
          exact fun hsleeps => Bool.noConfusion hsleeps
  | locking =>
      by_cases hfree : s.waiter = none
      · simp only [SharedSlot.goBack, hfree, if_true, put]
        apply h.walked
        · rw [hspot]
          rfl
        · rw [hfree]
          exact .take
        · exact fun _ => .inl rfl
      · simp only [SharedSlot.goBack, hfree, if_false]
        exact h
  | notifying =>
      -- the drainer is woken first, so that nobody need be on the way to it
      have hwoken := h.wakeUp
      have hwaiter : s.waiter = some (.thread i) := hlocked.mp rfl
      have hlocks : s.wakeUp.drainer.locks = false := by
        rw [← Bool.not_eq_true, hwoken.drainerLocked]
        change s.waiter ≠ _
        rw [hwaiter]
        exact fun hsame => by cases hsame
      apply hwoken.walked
      · change _ = (s.threads i).spot.isCounted
        rw [hspot]
        rfl
      · change LockStep (.thread i) s.waiter s.waiter (s.threads i).spot.locks _
        rw [hspot]
        exact .stay
      · intro hsleeps
        rcases DrainStage.of_sleeps hsleeps with hparking | hasleep
        · rw [hparking] at hlocks
          cases hlocks
        · exact absurd hasleep s.wakeUp_ne_asleep
  | unlocking =>
      have hwaiter : s.waiter = some (.thread i) := hlocked.mp rfl
      simp only [SharedSlot.goBack, finish, put]
      apply h.walked
      · rw [hspot]
        rfl
      · rw [hwaiter]
        exact .free
      · rw [hspot]
        exact fun _ => .inr rfl

theorem go (h : Sound s) (i : Fin n) : Sound (s.move (.go i)) := by
  change Sound (s.go i)
  cases hspot : (s.threads i).spot with
  | outside =>
      simp only [SharedSlot.go, hspot]
      exact h
  | counted =>
      simp only [SharedSlot.go, hspot]
      by_cases hretired : s.retired = true
      · rw [if_pos hretired]
        apply h.walked
        · rw [hspot]
          rfl
        · rw [hspot]
          exact .stay
        · rw [hspot]
          exact fun _ => .inr rfl
      · -- the slot is not drained yet, so the lease is good
        rw [if_neg hretired]
        have hstage := h.not_retiring hretired
        apply h.placed
        · simp [Worker.weight, hspot, Spot.isCounted, put]
        · rw [hspot]
          exact .stay
        · rw [hstage]
          exact fun hretiring => Bool.noConfusion hretiring
        · rw [hstage]
          exact fun hretiring => Bool.noConfusion hretiring
  | returning stage refused =>
      simp only [SharedSlot.go, hspot]
      exact h.goBack hspot

theorem drain (h : Sound s) : Sound (s.move .drain) := by
  change Sound s.drain
  have hmarked := h.marked
  have hdrainer := h.drainerLocked
  cases hstage : s.drainer with
  | retiring =>
      simp only [SharedSlot.drain, hstage]
      refine h.drained (by simp) ?_ nofun nofun
      rw [hstage]
      exact .stay
  | locking =>
      by_cases hfree : s.waiter = none
      · simp only [SharedSlot.drain, hstage, hfree, if_true]
        refine h.drained (by simp [hmarked, hstage]) ?_ nofun nofun
        rw [hfree]
        exact .take
      · simp only [SharedSlot.drain, hstage, hfree, if_false]
        exact h
  | testing =>
      simp only [SharedSlot.drain, hstage]
      by_cases hzero : s.slot.leases = 0
      · rw [if_pos hzero]
        refine h.drained (by simp [hmarked, hstage]) ?_
          (fun _ => .inr hzero) nofun
        rw [hstage]
        exact .stay
      · rw [if_neg hzero]
        refine h.drained (by simp [hmarked, hstage]) ?_
          nofun (fun _ => .inr hzero)
        rw [hstage]
        exact .stay
  | parking =>
      have hwaiter : s.waiter = some .drainer := hdrainer.mp (by rw [hstage]; rfl)
      simp only [SharedSlot.drain, hstage]
      refine h.drained (by simp [hmarked, hstage]) ?_ nofun
        (fun _ => .inl (by rw [hstage]; rfl))
      rw [hwaiter]
      exact .free
  | asleep =>
      simp only [SharedSlot.drain, hstage]
      exact h
  | unlocking =>
      have hwaiter : s.waiter = some .drainer := hdrainer.mp (by rw [hstage]; rfl)
      simp only [SharedSlot.drain, hstage]
      refine h.drained (by simp [hmarked, hstage]) ?_
        (fun _ => .inl (by rw [hstage]; rfl)) nofun
      rw [hwaiter]
      exact .free
  | returned =>
      simp only [SharedSlot.drain, hstage]
      exact h

theorem move (h : Sound s) (m : SlotMove n) : Sound (s.move m) := by
  cases m with
  | acquire i => exact h.acquire i
  | giveBack i => exact h.giveBack i
  | pass i j => exact h.pass i j
  | go i => exact h.go i
  | drain => exact h.drain
  | wake => exact h.wakeUp

theorem after (h : Sound s) (moves : List (SlotMove n)) : Sound (s.after moves) :=
  after_induction (fun _ m hs => hs.move m) h moves

end Sound

end SharedSlot

end LiveConfig
