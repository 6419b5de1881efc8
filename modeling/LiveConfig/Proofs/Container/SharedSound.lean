import LiveConfig.Proofs.Container.Shared
import LiveConfig.Proofs.Slot.Stepping
/-!
The invariant of a shared container.

Only a slot that is not current any more, or that of a closed container, is ever retired: an update
first makes another slot current, a close first marks the container. So a round of a call for a lease
that fails has seen a change of the container, and the rounds of a call never outnumber the changes
since it began by more than one.
-/

set_option autoImplicit false

namespace LiveConfig

variable {R C : Type} {n : Nat}

namespace UpdateStage

def locks : UpdateStage R C → Bool
  | locking => false
  | _ => true

/-- Whether the update found the container open and has not superseded a slot yet. -/
def entered : UpdateStage R C → Bool
  | locking | testing | disposing _ | leaving _ => false
  | _ => true

def source? : UpdateStage R C → Option Nat
  | comparing _ g | resetting _ g | adopting _ g | constructing _ g | swapping _ _ g => some g
  | _ => none

def superseded? : UpdateStage R C → Option Nat
  | disposing g => some g
  | _ => none

end UpdateStage

namespace CloseStage

def locks : CloseStage → Bool
  | swapping | refusing | loading | unlocking _ => true
  | _ => false

def marks : CloseStage → Bool
  | loading | unlocking _ | draining _ | closing _ => true
  | _ => false

def source? : CloseStage → Option Nat
  | unlocking g | draining g | closing g => some g
  | _ => none

end CloseStage

namespace ContainerCall

def locks : ContainerCall R C → Bool
  | update stage => stage.locks
  | close stage => stage.locks
  | _ => false

def marks : ContainerCall R C → Bool
  | close stage => stage.marks
  | _ => false

def drains? : ContainerCall R C → Option Nat
  | close (.draining g) => some g
  | _ => none

def slot? : ContainerCall R C → Option Nat
  | lease ⟨_, _, .trying g⟩ => some g
  | release g => some g
  | _ => none

theorem close_of_drains? {call : ContainerCall R C} {g : Nat} (h : call.drains? = some g) :
    call = close (.draining g) := by
  cases call with
  | outside | lease | release | update => cases h
  | close stage =>
      cases stage with
      | draining g' => exact congrArg (fun g => close (.draining g)) (Option.some.inj h)
      | locking | swapping | refusing | loading | unlocking | closing => cases h

theorem marks_of_drains? {call : ContainerCall R C} {g : Nat} (h : call.drains? = some g) :
    call.marks = true := by
  rw [close_of_drains? h]
  rfl

theorem stage_of_slot? {c : LeaseCall} {g : Nat}
    (h : (lease c : ContainerCall R C).slot? = some g) : c.stage = .trying g := by
  obtain ⟨began, rounds, stage⟩ := c
  cases stage with
  | testing | loading | counting => cases h
  | trying g' => exact congrArg _ (Option.some.inj h)

theorem slot?_of_locks {call : ContainerCall R C} (h : call.locks = true) : call.slot? = none := by
  cases call with
  | outside | lease | release => cases h
  | update | close => rfl

end ContainerCall

/-- The rounds begun are no more than the changes since and one more; if the round is too late, they
are no more than the changes. -/
structure LeaseCall.Paced (c : LeaseCall) (changes : Nat) (late : Prop) : Prop where
  begun : c.rounds + c.began ≤ changes + 1
  late : late → c.rounds + c.began ≤ changes

theorem LeaseCall.Paced.grown {c : LeaseCall} {before after : Nat} {late late' : Prop}
    (h : c.Paced before late) (hgrown : before < after) : c.Paced after late' where
  begun := by
    have hbegun := h.begun
    omega
  late _ := h.begun.trans hgrown

namespace SharedContainer

/-- The slot is not current, or the container is closed. -/
def Stale (s : SharedContainer R C n) (g : Nat) : Prop := g ≠ s.current ∨ s.closed = true

/-- A thread that wants a lease is at the slot; it is refused only if the slot is retired. -/
def Seated (s : SharedContainer R C n) (g : Nat) (i : Fin n) : Prop :=
  match s.spot g i with
  | .outside => False
  | .counted => True
  | .returning _ refused => refused = true ∧ (s.slots g).retired = true

/-- What a call for a lease relies on at its stage. -/
def LeaseFits (s : SharedContainer R C n) (i : Fin n) (c : LeaseCall) : Prop :=
  match c.stage with
  | .testing => c.Paced s.changes False
  | .loading => c.Paced s.changes (s.closed = true)
  | .counting g => c.Paced s.changes (s.Stale g) ∧ g ≤ s.current
  | .trying g => c.Paced s.changes (s.Stale g) ∧ g ≤ s.current ∧ s.Seated g i

def Fits (s : SharedContainer R C n) (i : Fin n) : ContainerCall R C → Prop
  | .outside => True
  | .lease c => s.LeaseFits i c
  | .release g => g ≤ s.current
  | .update stage => (stage.entered = true → s.closed = false) ∧
      (∀ g ∈ stage.source?, g = s.current) ∧
      ∀ g ∈ stage.superseded?, g + 1 = s.current ∧ s.disposals g = .absent
  | .close stage => (stage.marks = true → s.closed = true) ∧ ∀ g ∈ stage.source?, g = s.current

/-- Somebody drains the slot: the thread that was started for it, or a close. -/
def Driven (s : SharedContainer R C n) (g : Nat) : Prop :=
  s.disposals g = .running ∨ ∃ j, (s.calls j).drains? = some g

/-- What the slots, the calls, the lock and the current slot have to do with each other. -/
structure Sound (s : SharedContainer R C n) : Prop where
  slots : ∀ g, (s.slots g).Sound
  spots : ∀ g i, s.spot g i ≠ .outside → (s.calls i).slot? = some g
  fits : ∀ i, s.Fits i (s.calls i)
  locked : ∀ i, (s.calls i).locks = true ↔ s.lock = some i
  disposed : ∀ g, s.disposals g ≠ .absent → g < s.current
  retired : ∀ g, (s.slots g).retired = true → s.Stale g
  vacant : ∀ g, s.current < g → ∀ i, ((s.slots g).threads i).held = 0
  single : ∀ i j, (s.calls i).marks = true → (s.calls j).marks = true → i = j
  driven : ∀ g, (s.slots g).drainer.underway = true → s.Driven g

theorem changes_eq {s s' : SharedContainer R C n} (hcurrent : s'.current = s.current)
    (hclosed : s'.closed = s.closed) : s'.changes = s.changes := by
  rw [changes, changes, hcurrent, hclosed]

theorem stale_iff {s s' : SharedContainer R C n} (hcurrent : s'.current = s.current)
    (hclosed : s'.closed = s.closed) (g : Nat) : s'.Stale g ↔ s.Stale g := by
  rw [Stale, Stale, hcurrent, hclosed]

namespace Sound

variable {s s' : SharedContainer R C n} {i j : Fin n} {call : ContainerCall R C}

theorem start (n : Nat) (slot : Slot R C) (supplied : CallbackName → Bool) :
    Sound (SharedContainer.start n slot supplied) where
  slots _ := SharedSlot.Sound.start n slot
  spots _ _ houtside := absurd rfl houtside
  fits _ := trivial
  locked _ := by simp [SharedContainer.start, ContainerCall.locks]
  disposed _ habsent := absurd rfl habsent
  retired _ hretired := by cases hretired
  vacant _ _ _ := rfl
  single _ _ hmarks := by cases hmarks
  driven _ hunderway := by cases hunderway

theorem outside (h : Sound s) {g : Nat} (hslot : (s.calls i).slot? ≠ some g) :
    s.spot g i = .outside := by
  by_contra hne
  exact hslot (h.spots g i hne)

theorem outside_of_none (h : Sound s) (hslot : (s.calls i).slot? = none) (g : Nat) :
    s.spot g i = .outside := h.outside (hslot ▸ Option.some_ne_none g |>.symm)

theorem lock_unique (h : Sound s) (hi : (s.calls i).locks = true) (hji : j ≠ i) :
    (s.calls j).locks = false := by
  by_contra hlocks
  have hj := (h.locked j).mp (Bool.of_not_eq_false hlocks)
  rw [(h.locked i).mp hi] at hj
  exact hji (Option.some.inj hj).symm

/-! ### What a call relies on -/

/-- The same at the slot that a call is at, for as long as the mark of the slot lasts. -/
def SameSeat (s s' : SharedContainer R C n) (i : Fin n) (call : ContainerCall R C) : Prop :=
  ∀ g, call.slot? = some g →
    s'.spot g i = s.spot g i ∧ ((s.slots g).retired = true → (s'.slots g).retired = true)

theorem seated_of_same {g : Nat}
    (hsame : s'.spot g i = s.spot g i ∧ ((s.slots g).retired = true → (s'.slots g).retired = true))
    (h : s.Seated g i) : s'.Seated g i := by
  unfold Seated at h ⊢
  rw [hsame.1]
  revert h
  cases s.spot g i with
  | outside | counted => exact id
  | returning stage refused => exact And.imp_right hsame.2

theorem fits_of_idle {stage : UpdateStage R C} (hentered : stage.entered = false)
    (hsource : stage.source? = none) (hsuperseded : stage.superseded? = none) :
    s.Fits i (.update stage) := by
  simp [Fits, hentered, hsource, hsuperseded]

theorem fits_of_entered {stage : UpdateStage R C} (hopen : s.closed = false)
    (hsource : ∀ g ∈ stage.source?, g = s.current) (hsuperseded : stage.superseded? = none) :
    s.Fits i (.update stage) := by
  simpa [Fits, hopen, hsuperseded] using hsource

theorem fits_of_unmarked {stage : CloseStage} (hmarks : stage.marks = false)
    (hsource : stage.source? = none) : s.Fits i (.close stage) := by
  simp [Fits, hmarks, hsource]

theorem fits_of_same (hcurrent : s'.current = s.current) (hclosed : s'.closed = s.closed)
    (hdisposals : ∀ g, call = .update (.disposing g) → s'.disposals g = s.disposals g)
    (hseat : SameSeat s s' i call) (h : s.Fits i call) : s'.Fits i call := by
  have hchanges := changes_eq hcurrent hclosed
  have hstale := stale_iff hcurrent hclosed
  cases call with
  | outside => trivial
  | lease c =>
      obtain ⟨began, rounds, stage⟩ := c
      cases stage with
      | testing | loading => simpa only [Fits, LeaseFits, hchanges, hclosed] using h
      | counting g => simpa only [Fits, LeaseFits, hchanges, hstale, hcurrent] using h
      | trying g =>
          obtain ⟨hpaced, hle, hspot⟩ := h
          exact ⟨by simpa only [hchanges, hstale] using hpaced, by rwa [hcurrent],
            seated_of_same (hseat g rfl) hspot⟩
  | release g => exact h.trans_eq hcurrent.symm
  | update stage =>
      obtain ⟨hentered, hsource, hsuperseded⟩ := h
      refine ⟨by rwa [hclosed], by rwa [hcurrent], fun g hg => ?_⟩
      cases stage with
      | disposing g' =>
          cases hg
          rw [hcurrent, hdisposals g rfl]
          exact hsuperseded g rfl
      | _ => cases hg
  | close stage => simpa only [Fits, hclosed, hcurrent] using h

theorem fits_of_change (hcurrent : s.current ≤ s'.current) (hchanged : s.changes < s'.changes)
    (hseat : SameSeat s s' i call) (hlocks : call.locks = false) (hmarks : call.marks = false)
    (h : s.Fits i call) : s'.Fits i call := by
  cases call with
  | outside => trivial
  | lease c =>
      obtain ⟨began, rounds, stage⟩ := c
      cases stage with
      | testing | loading => exact LeaseCall.Paced.grown h hchanged
      | counting g => exact ⟨h.1.grown hchanged, h.2.trans hcurrent⟩
      | trying g =>
          obtain ⟨hpaced, hle, hspot⟩ := h
          exact ⟨hpaced.grown hchanged, hle.trans hcurrent, seated_of_same (hseat g rfl) hspot⟩
  | release g => exact le_trans h hcurrent
  | update stage =>
      cases stage with
      | locking => exact fits_of_idle rfl rfl rfl
      | _ => cases hlocks
  | close stage =>
      cases stage with
      | locking => exact fits_of_unmarked rfl rfl
      | swapping | refusing => cases hlocks
      | loading | unlocking | draining | closing => cases hmarks

theorem slot_le {g : Nat} (h : s.Fits i call) (hslot : call.slot? = some g) : g ≤ s.current := by
  cases call with
  | outside | update | close => cases hslot
  | lease c =>
      obtain ⟨began, rounds, stage⟩ := c
      cases stage with
      | testing | loading | counting => cases hslot
      | trying g' =>
          cases hslot
          exact h.2.1
  | release g' =>
      cases hslot
      exact h

theorem seated_of (h : Sound s) {c : LeaseCall} {g : Nat} (hcall : s.calls i = .lease c)
    (hstage : c.stage = .trying g) : s.Seated g i := by
  have hfits := h.fits i
  rw [hcall, Fits, LeaseFits, hstage] at hfits
  exact hfits.2.2

/-! ### A thread goes on with another call -/

theorem single_update (h : Sound s) (hmarks : call.marks = false ∨ (s.calls i).marks = true)
    (j k : Fin n) (hj : (Function.update s.calls i call j).marks = true)
    (hk : (Function.update s.calls i call k).marks = true) : j = k := by
  have hbefore : ∀ j, (Function.update s.calls i call j).marks = true →
      (s.calls j).marks = true := by
    intro j hj
    by_cases hji : j = i
    · subst hji
      rw [Function.update_self] at hj
      exact hmarks.resolve_left (Bool.not_eq_false _ |>.mpr hj)
    · rwa [Function.update_of_ne hji] at hj
  exact h.single j k (hbefore j hj) (hbefore k hk)

theorem driven_update {g : Nat} {disposals : Nat → Disposal}
    (hdisposals : s.disposals g = .running → disposals g = .running)
    (hleft : (s.calls i).drains? ≠ some g) (h : s.Driven g) :
    disposals g = .running ∨ ∃ j, (Function.update s.calls i call j).drains? = some g := by
  refine h.imp hdisposals fun ⟨j, hj⟩ => ⟨j, ?_⟩
  have hji : j ≠ i := by
    rintro rfl
    exact hleft hj
  rw [Function.update_of_ne hji]
  exact hj

theorem locked_update (h : Sound s) {lock : Option (Fin n)}
    (hlock : LockStep i s.lock lock (s.calls i).locks call.locks) (j : Fin n) :
    (Function.update s.calls i call j).locks = true ↔ lock = some j := by
  by_cases hji : j = i
  · subst hji
    rw [Function.update_self]
    exact hlock.own (h.locked j)
  · rw [Function.update_of_ne hji, hlock.other (Ne.symm hji)]
    exact h.locked j

theorem put (h : Sound s) {lock : Option (Fin n)} {answers : List (Fin n × CallAnswer)}
    {closings : List Closing} {stamps : Nat}
    (hlock : LockStep i s.lock lock (s.calls i).locks call.locks)
    (hslot : (s.calls i).slot? = none) (hfits : s.Fits i call)
    (hmarks : call.marks = false ∨ (s.calls i).marks = true)
    (hleft : ∀ g, (s.calls i).drains? = some g → (s.slots g).drainer.underway = false) :
    Sound { s with
      calls := Function.update s.calls i call
      lock := lock
      answers := answers
      closings := closings
      stamps := stamps } where
  slots := h.slots
  spots g j hspot := by
    have hji : j ≠ i := by
      rintro rfl
      exact hspot (h.outside_of_none hslot g)
    change (Function.update s.calls i call j).slot? = some g
    rw [Function.update_of_ne hji]
    exact h.spots g j hspot
  fits j := by
    change s.Fits j (Function.update s.calls i call j)
    by_cases hji : j = i
    · subst hji
      rw [Function.update_self]
      exact hfits
    · rw [Function.update_of_ne hji]
      exact h.fits j
  locked := h.locked_update hlock
  disposed := h.disposed
  retired := h.retired
  vacant := h.vacant
  single := h.single_update hmarks
  driven g hunderway := by
    refine driven_update id (fun hdrains => ?_) (h.driven g hunderway)
    rw [hleft g hdrains] at hunderway
    cases hunderway

/-! ### A step at a slot -/

theorem slots_onSlot_self (s : SharedContainer R C n) (g : Nat) (m : SlotMove n) :
    (s.onSlot g m).slots g = (s.slots g).move m := Function.update_self ..

theorem slots_onSlot_of_ne {g g' : Nat} (hne : g' ≠ g) (m : SlotMove n) :
    (s.onSlot g m).slots g' = s.slots g' := Function.update_of_ne hne _ _

theorem slots_onSlot (h : Sound s) (g : Nat) (m : SlotMove n) (g' : Nat) :
    ((s.onSlot g m).slots g').Sound := by
  by_cases hg : g' = g
  · subst hg
    rw [slots_onSlot_self]
    exact (h.slots g').move m
  · rw [slots_onSlot_of_ne hg]
    exact h.slots g'

/-- What is the same of a slot before and after a move at it is the same of all slots. -/
theorem eq_onSlot {α : Type} (f : SharedSlot R C n → α) {g : Nat} {m : SlotMove n}
    (hsame : f ((s.slots g).move m) = f (s.slots g)) (g' : Nat) :
    f ((s.onSlot g m).slots g') = f (s.slots g') := by
  by_cases hg : g' = g
  · subst hg
    rw [slots_onSlot_self, hsame]
  · rw [slots_onSlot_of_ne hg]

theorem seated (h : Sound s) {g : Nat} {m : SlotMove n} (hm : SharedSlot.IsStepOf i m)
    {answers : List (Fin n × CallAnswer)} (hslot : ∀ g' ∈ (s.calls i).slot?, g' = g)
    (hdrains : (s.calls i).drains? = none) (hlocks : call.locks = (s.calls i).locks)
    (hmarks : call.marks = false)
    (hseat : (s.onSlot g m).spot g i ≠ .outside → call.slot? = some g)
    (hheld : s.current < g → (((s.slots g).move m).threads i).held = 0)
    (hfits : (s.onSlot g m).Fits i call) :
    Sound { s with
      slots := Function.update s.slots g ((s.slots g).move m)
      calls := Function.update s.calls i call
      answers := answers } := by
  have hspot : ∀ g' j, j ≠ i → (s.onSlot g m).spot g' j = s.spot g' j := fun g' j hji =>
    eq_onSlot (fun slot => (slot.threads j).spot) (by rw [hm.threads hji]) g'
  have hretired := eq_onSlot SharedSlot.retired (s := s) (g := g) hm.retired
  have hunderway := eq_onSlot (fun slot => slot.drainer.underway) (s := s) (g := g) hm.underway
  refine ⟨h.slots_onSlot g m, fun g' j hne => ?_, fun j => ?_,
    h.locked_update (by rw [hlocks]; exact .stay), h.disposed, fun g' hr => ?_, fun g' hlt j => ?_,
    h.single_update (.inl hmarks), fun g' hr => ?_⟩
  · change (Function.update s.calls i call j).slot? = some g'
    change (s.onSlot g m).spot g' j ≠ .outside at hne
    by_cases hji : j = i
    · subst hji
      rw [Function.update_self]
      by_cases hg : g' = g
      · subst hg
        exact hseat hne
      · rw [spot, slots_onSlot_of_ne hg] at hne
        exact absurd (h.outside fun hat => hg (hslot g' hat)) hne
    · rw [Function.update_of_ne hji]
      rw [hspot g' j hji] at hne
      exact h.spots g' j hne
  · change (s.onSlot g m).Fits j (Function.update s.calls i call j)
    by_cases hji : j = i
    · subst hji
      rw [Function.update_self]
      exact hfits
    · rw [Function.update_of_ne hji]
      refine fits_of_same (s := s) rfl rfl (fun _ _ => rfl) (fun g' _ => ⟨hspot g' j hji, ?_⟩)
        (h.fits j)
      exact (hretired g').trans
  · exact h.retired g' ((hretired g').symm.trans hr)
  · change (((s.onSlot g m).slots g').threads j).held = 0
    change s.current < g' at hlt
    by_cases hji : j = i
    · subst hji
      by_cases hg : g' = g
      · subst hg
        rw [slots_onSlot_self]
        exact hheld hlt
      · rw [slots_onSlot_of_ne hg]
        exact h.vacant g' hlt j
    · have hsame := eq_onSlot (fun slot => (slot.threads j).held) (s := s) (g := g)
        (congrArg Worker.held (hm.threads hji)) g'
      exact hsame.trans (h.vacant g' hlt j)
  · refine driven_update id ?_ (h.driven g' ((hunderway g').symm.trans hr))
    rw [hdrains]
    exact (Option.some_ne_none g').symm

theorem onSlot (h : Sound s) {g : Nat} {m : SlotMove n} (hm : SharedSlot.IsStepOf i m)
    (hslot : (s.calls i).slot? = some g)
    (hheld : s.current < g → (((s.slots g).move m).threads i).held = 0)
    (hfits : (s.onSlot g m).Fits i (s.calls i)) : Sound (s.onSlot g m) := by
  have hmarks : (s.calls i).marks = false ∧ (s.calls i).drains? = none := by
    cases hcall : s.calls i with
    | outside | lease | release | update => exact ⟨rfl, rfl⟩
    | close =>
        rw [hcall] at hslot
        cases hslot
  have hseated : Sound { s.onSlot g m with calls := Function.update s.calls i (s.calls i) } := h.seated
    hm (fun g' hg' => Option.some.inj ((Option.mem_def.mp hg').symm.trans hslot)) hmarks.2 rfl hmarks.1
    (fun _ => hslot) hheld hfits
  rwa [Function.update_eq_self] at hseated

/-- A slot takes a step that moves no thread. Only somebody who drains it takes its drainer a step
further. -/
theorem aside (h : Sound s) {g : Nat} {m : SlotMove n} (hm : SharedSlot.IsAside m)
    (hdrain : m = .drain → s.Stale g ∧ s.Driven g) : Sound (s.onSlot g m) := by
  have hspot : ∀ g' j, (s.onSlot g m).spot g' j = s.spot g' j := fun g' j =>
    eq_onSlot (fun slot => (slot.threads j).spot) (hm.spot j) g'
  have hkept : ∀ g', (g' = g ∧ m = .drain) ∨
      (((s.onSlot g m).slots g').retired = (s.slots g').retired ∧
        ((s.onSlot g m).slots g').drainer.underway = (s.slots g').drainer.underway) := by
    intro g'
    by_cases hg : g' = g
    · subst hg
      by_cases hd : m = .drain
      · exact .inl ⟨rfl, hd⟩
      · rw [slots_onSlot_self]
        exact .inr (hm.of_ne_drain hd)
    · rw [slots_onSlot_of_ne hg]
      exact .inr ⟨rfl, rfl⟩
  refine ⟨h.slots_onSlot g m, fun g' j hne => h.spots g' j ((hspot g' j).symm ▸ hne), fun j => ?_,
    h.locked, h.disposed, fun g' hr => ?_, fun g' hlt j => ?_, h.single, fun g' hr => ?_⟩
  · refine fits_of_same (s := s) rfl rfl (fun _ _ => rfl) (fun g' _ => ⟨hspot g' j, fun hr => ?_⟩)
      (h.fits j)
    by_cases hg : g' = g
    · subst hg
      rw [slots_onSlot_self]
      exact SharedSlot.retired_move hr m
    · rwa [slots_onSlot_of_ne hg]
  · rcases hkept g' with ⟨rfl, hd⟩ | ⟨hsame, -⟩
    · exact (hdrain hd).1
    · exact h.retired g' (hsame.symm.trans hr)
  · by_cases hg : g' = g
    · subst hg
      rw [slots_onSlot_self]
      exact hm.held (h.vacant g' hlt) j
    · rw [slots_onSlot_of_ne hg]
      exact h.vacant g' hlt j
  · rcases hkept g' with ⟨rfl, hd⟩ | ⟨-, hsame⟩
    · exact (hdrain hd).2
    · exact h.driven g' (hsame.symm.trans hr)

/-! ### What a step changes beside the slots that calls are at -/

theorem edit (h : Sound s) {g : Nat} {f : Slot R C → Slot R C}
    (hleases : (f (s.slots g).slot).leases = (s.slots g).slot.leases) : Sound (s.edit g f) := by
  have hsame : ∀ g', ∃ slot, (s.edit g f).slots g' = { s.slots g' with slot := slot } ∧
      slot.leases = (s.slots g').slot.leases := by
    intro g'
    by_cases hg : g' = g
    · subst hg
      exact ⟨_, Function.update_self .., hleases⟩
    · exact ⟨_, Function.update_of_ne hg _ _, rfl⟩
  have hthreads : ∀ g', ((s.edit g f).slots g').threads = (s.slots g').threads := fun g' => by
    obtain ⟨slot, hslot, -⟩ := hsame g'
    rw [hslot]
  have hretired : ∀ g', ((s.edit g f).slots g').retired = (s.slots g').retired := fun g' => by
    obtain ⟨slot, hslot, -⟩ := hsame g'
    rw [hslot]
  have hspot : ∀ g' j, (s.edit g f).spot g' j = s.spot g' j := fun g' j => by
    rw [spot, spot, hthreads]
  refine ⟨fun g' => ?_, fun g' j hne => h.spots g' j ((hspot g' j).symm ▸ hne), fun j => ?_,
    h.locked, h.disposed, fun g' hr => h.retired g' ((hretired g').symm.trans hr),
    fun g' hlt j => ?_, h.single, fun g' hr => ?_⟩
  · obtain ⟨slot, hslot, hcount⟩ := hsame g'
    rw [hslot]
    have hg := h.slots g'
    refine ⟨hcount.trans hg.counted, hg.marked, hg.locked, hg.drainerLocked, hg.empty, ?_⟩
    exact fun hsleeps hzero => hg.awaited hsleeps (hcount.symm.trans hzero)
  · exact fits_of_same (s := s) rfl rfl (fun _ _ => rfl)
      (fun g' _ => ⟨hspot g' j, (hretired g').trans⟩) (h.fits j)
  · rw [hthreads]
    exact h.vacant g' hlt j
  · obtain ⟨slot, hslot, -⟩ := hsame g'
    rw [hslot] at hr
    exact h.driven g' hr

theorem disposal (h : Sound s) {g : Nat} {d : Disposal} {closings : List Closing}
    (hold : g < s.current) (hnone : ∀ j, s.calls j ≠ .update (.disposing g))
    (hrunning : (s.slots g).drainer.underway = true → d = .running) :
    Sound { s with disposals := Function.update s.disposals g d, closings := closings } where
  slots := h.slots
  spots := h.spots
  fits j := by
    refine fits_of_same (s := s) rfl rfl (fun g' hg' => ?_) (fun _ _ => ⟨rfl, id⟩) (h.fits j)
    refine Function.update_of_ne ?_ _ _
    rintro rfl
    exact hnone j hg'
  locked := h.locked
  disposed g' hg' := by
    by_cases hg : g' = g
    · exact hg ▸ hold
    · change Function.update s.disposals g d g' ≠ .absent at hg'
      rw [Function.update_of_ne hg] at hg'
      exact h.disposed g' hg'
  retired := h.retired
  vacant := h.vacant
  single := h.single
  driven g' hr := by
    by_cases hg : g' = g
    · subst hg
      exact .inl ((Function.update_self ..).trans (hrunning hr))
    · exact (h.driven g' hr).imp_left ((Function.update_of_ne hg _ _).trans ·)

theorem unmarked (h : Sound s) (hopen : s.closed = false) (j : Fin n) :
    (s.calls j).marks = false := by
  have hfits := h.fits j
  cases hcall : s.calls j with
  | outside | lease | release | update => rfl
  | close stage =>
      rw [hcall] at hfits
      by_contra hmarks
      rw [hfits.1 (Bool.of_not_eq_false hmarks)] at hopen
      cases hopen

/-- The container changes: another slot becomes current, or the container is closed. Only one call
at a time has the lock, nobody is at a slot that is new, and every other call for a lease has one more
round. -/
theorem changed (h : Sound s) {slots : Nat → SharedSlot R C n} {current stamps : Nat} {closed : Bool}
    (hopen : s.closed = false) (hlocks : (s.calls i).locks = true) (hlocks' : call.locks = true)
    (hcurrent : s.current ≤ current) (hchanged : s.changes < current + closed.toNat)
    (hslots : ∀ g, slots g = s.slots g ∨ s.current < g ∧ ∃ slot, slots g = .start n slot)
    (hstale : closed = true ∨ (slots current).retired = false)
    (hslot : call.slot? = none)
    (hfits : { s with current, closed }.Fits i call) :
    Sound { s with
      slots := slots
      calls := Function.update s.calls i call
      current := current
      closed := closed
      stamps := stamps } := by
  have hunmarked : ∀ j, j ≠ i → (Function.update s.calls i call j).marks = false := by
    intro j hji
    rw [Function.update_of_ne hji]
    exact h.unmarked hopen j
  have hmarked : ∀ j, (Function.update s.calls i call j).marks = true → j = i := by
    intro j hj
    by_contra hji
    rw [hunmarked j hji] at hj
    cases hj
  refine ⟨fun g => ?_, fun g j hspot => ?_, fun j => ?_,
    h.locked_update (by rw [hlocks, hlocks']; exact .stay),
    fun g hg => (h.disposed g hg).trans_le hcurrent, fun g hr => ?_, fun g hlt j => ?_,
    fun j k hj hk => (hmarked j hj).trans (hmarked k hk).symm, fun g hr => ?_⟩
  · change (slots g).Sound
    rcases hslots g with hsame | ⟨-, slot, hnew⟩
    · exact hsame ▸ h.slots g
    · exact hnew ▸ .start n slot
  · change ((slots g).threads j).spot ≠ .outside at hspot
    rcases hslots g with hsame | ⟨-, slot, hnew⟩
    · rw [hsame] at hspot
      have hat := h.spots g j hspot
      have hji : j ≠ i := by
        rintro rfl
        rw [ContainerCall.slot?_of_locks hlocks] at hat
        cases hat
      change (Function.update s.calls i call j).slot? = some g
      rwa [Function.update_of_ne hji]
    · rw [hnew] at hspot
      exact absurd rfl hspot
  · change Fits _ j (Function.update s.calls i call j)
    by_cases hji : j = i
    · subst hji
      rw [Function.update_self]
      refine fits_of_same (s := { s with current, closed }) rfl rfl (fun _ _ => rfl) ?_ hfits
      intro g hg
      rw [hslot] at hg
      cases hg
    · rw [Function.update_of_ne hji]
      refine fits_of_change hcurrent hchanged (fun g hg => ?_) (h.lock_unique hlocks hji)
        (h.unmarked hopen j) (h.fits j)
      have hsame : slots g = s.slots g := (hslots g).resolve_right fun hnew =>
        absurd hnew.1 (Nat.not_lt.mpr (slot_le (h.fits j) hg))
      change ((slots g).threads j).spot = _ ∧ (_ → (slots g).retired = true)
      rw [hsame]
      exact ⟨rfl, id⟩
  · change (slots g).retired = true at hr
    change g ≠ current ∨ closed = true
    rcases hstale with hclosed | hfresh
    · exact .inr hclosed
    · refine .inl ?_
      rintro rfl
      rw [hfresh] at hr
      cases hr
  · change ((slots g).threads j).held = 0
    rcases hslots g with hsame | ⟨-, slot, hnew⟩
    · rw [hsame]
      exact h.vacant g (hcurrent.trans_lt hlt) j
    · rw [hnew]
      rfl
  · change (slots g).drainer.underway = true at hr
    rcases hslots g with hsame | ⟨-, slot, hnew⟩
    · rw [hsame] at hr
      refine (h.driven g hr).imp_right fun ⟨j, hj⟩ => ?_
      have hnone := h.unmarked hopen j
      rw [ContainerCall.marks_of_drains? hj] at hnone
      cases hnone
    · rw [hnew] at hr
      cases hr

end Sound

end SharedContainer

end LiveConfig
