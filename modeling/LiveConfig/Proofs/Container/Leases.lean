import LiveConfig.Container.Follow
import LiveConfig.Container.Leasing
import Mathlib.Data.List.Nodup
/-!
Taking and returning leases, and closing, case by case.

Each operation has one equation for each case that matters, so what it preserves can be shown
without opening it.
-/

set_option autoImplicit false

namespace LiveConfig.Container

variable {R C σ : Type} {cb : Callbacks R C σ} {c : Container R C} {w : σ}

/-- The slots of a container: the current one and those that were replaced and are still leased. -/
def slots (c : Container R C) : List (Slot R C) := c.current :: c.superseded

def leased (c : Container R C) : Container R C :=
  { c with current := { c.current with leases := c.current.leases + 1 } }

def unleased (c : Container R C) : Container R C := { c with current := returned c.current }

theorem phase_ne_closed (hopen : c.isClosed = false) : c.phase ≠ .closed := by
  have hserving : c.phase = .serving := by simpa [isClosed] using hopen
  rw [hserving]
  exact nofun

/-! ### Taking a lease -/

theorem lease?_of_closed (h : c.isClosed = true) : c.lease? = .error .closed := by
  simp [lease?, h]

theorem lease?_of_open (h : c.isClosed = false) : c.lease? = .ok (c.generation, c.leased) := by
  simp [lease?, h, leased, leases]

/-! ### Closing -/

theorem close_of_closed (h : c.isClosed = true) :
    close cb c w = ⟨.done (.error .alreadyClosed), c, w, []⟩ := by
  simp [close, h]

theorem close_of_idle (h : c.isClosed = false) (hidle : c.leases = 0) :
    close cb c w = ⟨.done (finishClose cb c w).result, (finishClose cb c w).container,
      (finishClose cb c w).world, (finishClose cb c w).closings⟩ := by
  simp [close, h, hidle]

theorem close_of_leased (h : c.isClosed = false) (hleased : c.leases ≠ 0) :
    close cb c w = ⟨.pending, { c with phase := .draining }, w, []⟩ := by
  simp [close, h, hleased]

/-! ### Returning a lease on the current slot -/

theorem giveBack_last {g : Nat} (hg : c.generation = g) (hphase : c.phase = .draining)
    (hlast : c.unleased.leases = 0) :
    giveBack cb c g w = ⟨some (.done (finishClose cb c.unleased w).result),
      (finishClose cb c.unleased w).container, (finishClose cb c.unleased w).world,
      (finishClose cb c.unleased w).closings⟩ := by
  have hwait : c.unleased.phase = .draining ∧ c.unleased.leases = 0 := ⟨hphase, hlast⟩
  unfold unleased at hwait
  simp only [giveBack, hg, if_true, unleased]
  rw [if_pos hwait]

theorem giveBack_current {g : Nat} (hg : c.generation = g)
    (hstay : ¬(c.phase = .draining ∧ c.unleased.leases = 0)) :
    giveBack cb c g w = ⟨none, c.unleased, w, []⟩ := by
  have hwait : ¬(c.unleased.phase = .draining ∧ c.unleased.leases = 0) := hstay
  unfold unleased at hwait
  simp only [giveBack, hg, if_true, unleased]
  rw [if_neg hwait]

/-! ### Returning a lease on a replaced slot -/

theorem returnTo_last {g : Nat} {slot : Slot R C} {l : List (Slot R C)}
    (distinct : (l.map Slot.generation).Nodup) (hmem : slot ∈ l) (hg : slot.generation = g)
    (hlast : slot.leases = 1) :
    returnTo g l = (l.filter (·.generation ≠ g), some (returned slot)) := by
  induction l with
  | nil => cases hmem
  | cons first rest ih =>
      obtain ⟨hfirst, hrest⟩ := List.nodup_cons.mp (List.map_cons ▸ distinct)
      rcases List.mem_cons.mp hmem with rfl | hmem
      · have hkept : rest.filter (·.generation ≠ g) = rest := by
          refine List.filter_eq_self.mpr fun other hother => ?_
          have hne : other.generation ≠ g := fun h =>
            hfirst (List.mem_map.mpr ⟨other, hother, h.trans hg.symm⟩)
          simpa using hne
        have hzero : (returned slot).leases = 0 := by simp [returned, hlast]
        simp only [returnTo, hg, if_true, hzero]
        rw [List.filter_cons_of_neg (by simp [hg]), hkept]
      · have hne : first.generation ≠ g := fun h =>
          hfirst (List.mem_map.mpr ⟨slot, hmem, hg.trans h.symm⟩)
        simp only [returnTo, hne, if_false, ih hrest hmem]
        rw [List.filter_cons_of_pos (by simpa using hne)]

theorem returnTo_more {g : Nat} {slot : Slot R C} {l : List (Slot R C)}
    (distinct : (l.map Slot.generation).Nodup) (hmem : slot ∈ l) (hg : slot.generation = g)
    (hmore : 1 < slot.leases) :
    returnTo g l = (l.map fun s => if s.generation = g then returned s else s, none) := by
  induction l with
  | nil => cases hmem
  | cons first rest ih =>
      obtain ⟨hfirst, hrest⟩ := List.nodup_cons.mp (List.map_cons ▸ distinct)
      rcases List.mem_cons.mp hmem with rfl | hmem
      · have hkept : rest.map (fun s => if s.generation = g then returned s else s) = rest := by
          refine (List.map_congr_left fun other hother => ?_).trans (List.map_id _)
          have hne : other.generation ≠ g := fun h =>
            hfirst (List.mem_map.mpr ⟨other, hother, h.trans hg.symm⟩)
          simp [hne]
        have hpos : (returned slot).leases ≠ 0 := by simp only [returned]; omega
        simp only [returnTo, hg, if_true, hpos, if_false, List.map_cons, hkept]
      · have hne : first.generation ≠ g := fun h =>
          hfirst (List.mem_map.mpr ⟨slot, hmem, hg.trans h.symm⟩)
        simp only [returnTo, hne, if_false, ih hrest hmem, List.map_cons]

/-- Whatever lease on a replaced slot comes back, its object is closed at most. -/
theorem giveBack_superseded {g : Nat} (cb : Callbacks R C σ) (w : σ) (hg : c.generation ≠ g) :
    ∃ w' closings, giveBack cb c g w =
        ⟨none, { c with superseded := (returnTo g c.superseded).1 }, w', closings⟩ ∧
      (w' = w ∨ ∃ object, w' = (cb.close object w).2.2) := by
  simp only [giveBack, hg, if_false]
  cases (returnTo g c.superseded).2 with
  | none => exact ⟨w, [], rfl, .inl rfl⟩
  | some slot =>
      by_cases hstranded : slot.generation ∈ c.stranded
      · simp only [hstranded, if_true]
        exact ⟨w, [], rfl, .inl rfl⟩
      · simp only [hstranded, if_false]
        exact ⟨_, _, rfl, .inr ⟨slot.object, rfl⟩⟩

theorem giveBack_superseded_last {g : Nat} {slot : Slot R C} (hg : c.generation ≠ g)
    (distinct : (c.superseded.map Slot.generation).Nodup) (hmem : slot ∈ c.superseded)
    (hslot : slot.generation = g) (hlast : slot.leases = 1) (hthread : g ∉ c.stranded) :
    giveBack cb c g w =
      ⟨none, { c with superseded := c.superseded.filter (·.generation ≠ g) },
        (cb.close slot.object w).2.2, [.closed g true (cb.close slot.object w).1]⟩ := by
  simp only [giveBack, hg, if_false, returnTo_last distinct hmem hslot hlast, returned, hslot,
    hthread]

theorem giveBack_stranded_last {g : Nat} {slot : Slot R C} (hg : c.generation ≠ g)
    (distinct : (c.superseded.map Slot.generation).Nodup) (hmem : slot ∈ c.superseded)
    (hslot : slot.generation = g) (hlast : slot.leases = 1) (hstranded : g ∈ c.stranded) :
    giveBack cb c g w =
      ⟨none, { c with superseded := c.superseded.filter (·.generation ≠ g) }, w, []⟩ := by
  simp only [giveBack, hg, if_false, returnTo_last distinct hmem hslot hlast, returned, hslot,
    hstranded, if_true]

theorem giveBack_superseded_more {g : Nat} {slot : Slot R C} (hg : c.generation ≠ g)
    (distinct : (c.superseded.map Slot.generation).Nodup) (hmem : slot ∈ c.superseded)
    (hslot : slot.generation = g) (hmore : 1 < slot.leases) :
    giveBack cb c g w =
      ⟨none, { c with superseded :=
        c.superseded.map fun s => if s.generation = g then returned s else s }, w, []⟩ := by
  simp only [giveBack, hg, if_false, returnTo_more distinct hmem hslot hmore]

end LiveConfig.Container
