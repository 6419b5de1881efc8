import LiveConfig.Proofs.Slot.Sound
/-!
The drainer of a shared slot returns only when all leases are back, and it is woken up for that.
-/

set_option autoImplicit false

namespace LiveConfig

variable {R C : Type} {n : Nat}

namespace SharedSlot

variable {s : SharedSlot R C n} {i j : Fin n}

/-! ### A slot that is drained -/

/-- The drainer has returned, and no lease was given since. -/
def Refusing (before s : SharedSlot R C n) : Prop :=
  s.drainer = .returned ∧ ∃ answers, s.answers = before.answers ++ answers ∧ true ∉ answers

namespace Refusing

variable {before : SharedSlot R C n}

theorem same (hreturned : s.drainer = .returned) (hanswers : s.answers = before.answers) :
    Refusing before s :=
  ⟨hreturned, [], by rw [hanswers, List.append_nil], List.not_mem_nil⟩

theorem trans {s' : SharedSlot R C n} (h : Refusing before s) (h' : Refusing s s') :
    Refusing before s' := by
  obtain ⟨-, given, hgiven, hnone⟩ := h
  obtain ⟨hreturned, more, hmore, hrefused⟩ := h'
  refine ⟨hreturned, given ++ more, ?_, ?_⟩
  · rw [hmore, hgiven, List.append_assoc]
  · rw [List.mem_append]
    exact fun hmem => hmem.elim hnone hrefused

theorem finish (hreturned : s.drainer = .returned) (i : Fin n) (refused : Bool) :
    Refusing s (s.finish i refused) := by
  cases refused with
  | true => exact ⟨hreturned, [false], rfl, by simp⟩
  | false => exact same hreturned rfl

theorem goBack (hretired : s.retired = true) (hreturned : s.drainer = .returned) (i : Fin n)
    (refused : Bool) (stage : ReturnStage) : Refusing s (s.goBack i refused stage) := by
  cases stage with
  | subtracting =>
      simp only [SharedSlot.goBack]
      split
      · exact same hreturned rfl
      · exact finish (s := { s with slot := Container.returned s.slot }) hreturned i refused
  | looking =>
      simp only [SharedSlot.goBack]
      rw [if_pos hretired]
      exact same hreturned rfl
  | locking =>
      simp only [SharedSlot.goBack]
      split <;> exact same hreturned rfl
  | notifying =>
      refine same ?_ rfl
      simp [SharedSlot.goBack, wakeUp, put, hreturned]
  | unlocking => exact finish hreturned i refused

theorem move (hretired : s.retired = true) (hreturned : s.drainer = .returned)
    (m : SlotMove n) : Refusing s (s.move m) := by
  cases m with
  | acquire i | giveBack i | pass i j =>
      simp only [SharedSlot.move, put]
      split <;> exact same hreturned rfl
  | go i =>
      simp only [SharedSlot.move, SharedSlot.go]
      split
      · exact same hreturned rfl
      · rw [if_pos hretired]
        exact same hreturned rfl
      · exact goBack hretired hreturned i _ _
  | drain => simp [SharedSlot.move, SharedSlot.drain, hreturned, same hreturned rfl]
  | wake =>
      refine same ?_ rfl
      simp [SharedSlot.move, wakeUp, hreturned]

end Refusing

/-- After the drainer has returned nobody has a lease and nobody gets one. -/
theorem Sound.stays_drained (h : Sound s) (hreturned : s.drainer = .returned)
    (later : List (SlotMove n)) :
    (∃ answers, (s.after later).answers = s.answers ++ answers ∧ true ∉ answers) ∧
      ∀ i, ((s.after later).threads i).held = 0 := by
  have hkept : Sound (s.after later) ∧ Refusing s (s.after later) := by
    refine after_induction (P := fun t => Sound t ∧ Refusing s t) ?_ ⟨h, .same hreturned rfl⟩ later
    rintro t m ⟨ht, hrefusing⟩
    have hretired : t.retired = true := ht.marked.mpr (by rw [hrefusing.1]; exact nofun)
    exact ⟨ht.move m, hrefusing.trans (.move hretired hrefusing.1 m)⟩
  obtain ⟨hsound, hstage, hanswers⟩ := hkept
  exact ⟨hanswers, hsound.empty (by rw [hstage]; rfl)⟩

/-! ### A drainer that sleeps -/

theorem woken_by (hretired : s.retired = true) (hasleep : s.drainer = .asleep)
    (hfree : s.waiter = none) (hlocks : (s.threads i).spot.locks = false)
    (hnotifies : (s.threads i).spot.notifies = true) :
    ∃ k, (s.after (List.replicate k (.go i))).drainer = .locking := by
  cases hspot : (s.threads i).spot with
  | outside | counted =>
      rw [hspot] at hnotifies
      cases hnotifies
  | returning stage refused =>
      rw [hspot] at hlocks hnotifies
      cases stage with
      | looking =>
          exact ⟨3, by simp [after, List.replicate, move, go, goBack, put, wakeUp, hspot, hretired,
            hfree, hasleep]⟩
      | locking =>
          exact ⟨2, by simp [after, List.replicate, move, go, goBack, put, wakeUp, hspot, hfree,
            hasleep]⟩
      | notifying => cases hlocks
      | subtracting | unlocking => cases hnotifies

theorem unlocked_by {refused : Bool} (hspot : (s.threads j).spot = .returning .unlocking refused)
    (hne : i ≠ j) : (s.move (.go j)).waiter = none ∧ (s.move (.go j)).retired = s.retired ∧
      (s.move (.go j)).drainer = s.drainer ∧ (s.move (.go j)).threads i = s.threads i := by
  have hstep : s.move (.go j) = { s.finish j refused with waiter := none } := by
    simp [move, go, goBack, hspot]
  rw [hstep]
  exact ⟨rfl, rfl, rfl, Function.update_of_ne hne _ _⟩

/-- A drainer that sleeps with the counter at zero is woken by the threads. -/
theorem Sound.woken (h : Sound s) (hasleep : s.drainer = .asleep) (hzero : s.slot.leases = 0) :
    ∃ calls : List (Fin n), (s.after (calls.map .go)).drainer = .locking := by
  have hretired : s.retired = true := h.marked.mpr (by rw [hasleep]; decide)
  obtain ⟨i, hi⟩ := h.awaited (by rw [hasleep]; rfl) hzero
  cases hwaiter : s.waiter with
  | none =>
      have hlocks : (s.threads i).spot.locks = false := by
        rw [← Bool.not_eq_true, h.locked, hwaiter]
        exact (Option.some_ne_none _).symm
      obtain ⟨k, hk⟩ := woken_by hretired hasleep hwaiter hlocks hi
      exact ⟨List.replicate k i, by rw [List.map_replicate]; exact hk⟩
  | some party =>
      cases party with
      | drainer =>
          have hlocks := h.drainerLocked.mpr hwaiter
          rw [hasleep] at hlocks
          cases hlocks
      | thread j =>
          have hlocks := (h.locked j).mpr hwaiter
          cases hspot : (s.threads j).spot with
          | outside | counted =>
              rw [hspot] at hlocks
              cases hlocks
          | returning stage refused =>
              rw [hspot] at hlocks
              cases stage with
              | subtracting | looking | locking => cases hlocks
              | notifying =>
                  exact ⟨[j], by simp [SharedSlot.after, SharedSlot.move, SharedSlot.go,
                    SharedSlot.goBack, put, SharedSlot.wakeUp, hspot, hasleep]⟩
              | unlocking =>
                  -- this thread has woken the drainer once before, and only frees the lock
                  have hne : i ≠ j := by
                    rintro rfl
                    rw [hspot] at hi
                    cases hi
                  obtain ⟨hfree, hmarked, hstage, hthread⟩ := unlocked_by hspot hne
                  have hidle : ((s.move (.go j)).threads i).spot.locks = false := by
                    rw [← Bool.not_eq_true, (h.move (.go j)).locked, hfree]
                    exact (Option.some_ne_none _).symm
                  obtain ⟨k, hk⟩ := woken_by (hmarked.trans hretired) (hstage.trans hasleep) hfree
                    hidle (by rw [hthread]; exact hi)
                  refine ⟨j :: List.replicate k i, ?_⟩
                  rw [List.map_cons, List.map_replicate]
                  exact hk

theorem Sound.drains_alone (h : Sound s) (hgone : ∀ i, s.threads i = {}) :
    (s.after (List.replicate 5 .drain)).drainer = .returned := by
  have hzero : s.slot.leases = 0 := by
    rw [h.counted]
    exact Finset.sum_eq_zero fun i _ => by rw [hgone i]; rfl
  have hthread : ∀ i, s.waiter ≠ some (.thread i) := by
    intro i hwaiter
    have hlocks := (h.locked i).mpr hwaiter
    rw [hgone i] at hlocks
    cases hlocks
  have hfree : s.drainer.locks = false → s.waiter = none := by
    intro hlocks
    cases hwaiter : s.waiter with
    | none => rfl
    | some party =>
        cases party with
        | thread i => exact absurd hwaiter (hthread i)
        | drainer =>
            have hown := h.drainerLocked.mpr hwaiter
            rw [hlocks] at hown
            cases hown
  have hawake : s.drainer.sleeps = false := by
    rw [← Bool.not_eq_true]
    intro hsleeps
    obtain ⟨i, hi⟩ := h.awaited hsleeps hzero
    rw [hgone i] at hi
    cases hi
  cases hstage : s.drainer with
  | retiring | locking =>
      have hwaiter := hfree (by rw [hstage]; rfl)
      simp [SharedSlot.after, List.replicate, SharedSlot.move, SharedSlot.drain, hstage, hwaiter,
        hzero]
  | parking | asleep =>
      rw [hstage] at hawake
      cases hawake
  | testing | unlocking | returned =>
      simp [SharedSlot.after, List.replicate, SharedSlot.move, SharedSlot.drain, hstage, hzero]

/-- Whatever steps the threads and the drainer have made, and in whatever order. A call that nobody
interrupts does what the container does. If the drainer has returned, nobody has a lease, and nobody
has or gets one later. A thread that subtracts from the counter finds it above zero. If the drainer
sleeps and the counter is at zero, a thread is on its way to wake it, and the threads can do so
without it. Once they are all gone, the drainer gets to its end. -/
theorem drains_and_wakes (n : Nat) (slot : Slot R C) (moves : List (SlotMove n)) :
    let s := (start n slot).after moves
    (∀ (c : Container R C) i, s.slot = c.current → (s.threads i).spot = .outside →
      (s.retired = false → (s.after [.acquire i, .go i]).slot = c.leased.current ∧
        (s.after [.acquire i, .go i]).answers = s.answers ++ [true]) ∧
      (0 < (s.threads i).held → (s.after [.giveBack i, .go i]).slot = c.unleased.current)) ∧
      (s.drainer = .returned → (∀ i, (s.threads i).held = 0) ∧ ∀ later : List (SlotMove n),
        (∃ answers, (s.after later).answers = s.answers ++ answers ∧ true ∉ answers) ∧
          ∀ i, ((s.after later).threads i).held = 0) ∧
      (∀ i refused, (s.threads i).spot = .returning .subtracting refused → 0 < s.slot.leases) ∧
      (s.drainer = .asleep → s.slot.leases = 0 →
        (s.retired = true ∧ ∃ i, (s.threads i).spot.notifies = true) ∧
          ∃ calls : List (Fin n), (s.after (calls.map .go)).drainer = .locking) ∧
      ((∀ i, s.threads i = {}) → (s.after (List.replicate 5 .drain)).drainer = .returned) := by
  intro s
  have hsound : Sound s := (Sound.start n slot).after moves
  refine ⟨?_, ?_, ?_, ?_, hsound.drains_alone⟩
  · intro c i hslot houtside
    exact ⟨acquire_alone hslot houtside, giveBack_alone hslot houtside⟩
  · intro hreturned
    exact ⟨(hsound.stays_drained hreturned []).2, hsound.stays_drained hreturned⟩
  · intro i refused hspot
    exact hsound.leases_pos (by rw [hspot]; rfl)
  · intro hasleep hzero
    refine ⟨⟨hsound.marked.mpr ?_, hsound.awaited ?_ hzero⟩, hsound.woken hasleep hzero⟩
    · rw [hasleep]
      exact nofun
    · rw [hasleep]
      rfl

/-- A thread takes a lease and the drainer goes to sleep. A second thread is refused and counts
itself in between, so that it, and not the one with the lease, takes the counter to zero. -/
def bouncing : List (SlotMove 2) :=
  [.acquire 0, .go 0, .drain, .drain, .drain, .drain, .acquire 1, .go 1, .giveBack 0, .go 0, .go 1]

theorem drains_and_wakes_bouncing :
    let s := (start 2 (⟨(), ⟨0, ()⟩, 1, 0⟩ : Slot Unit Unit)).after bouncing
    (s.drainer = .asleep ∧ s.slot.leases = 0 ∧ s.answers = [true]) ∧
      ∃ calls : List (Fin 2), (s.after (calls.map .go)).drainer = .locking := by
  obtain ⟨-, -, -, hwoken, -⟩ := drains_and_wakes 2 (⟨(), ⟨0, ()⟩, 1, 0⟩ : Slot Unit Unit) bouncing
  refine ⟨⟨rfl, rfl, rfl⟩, (hwoken rfl rfl).2⟩

end SharedSlot

end LiveConfig
