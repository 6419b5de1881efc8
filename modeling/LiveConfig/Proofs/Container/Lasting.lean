import LiveConfig.Proofs.Container.History
import LiveConfig.Proofs.FileTree.Nodes
/-!
What a lease shows for as long as it is held.

A lease names the generation of its object. Until an update replaces the object, its slot is the
current one, and shows every config that is put in force. From then on the slot is one of the
superseded, which change by the return of leases alone, so it shows the last of those configs for
ever.
-/

set_option autoImplicit false

namespace LiveConfig

variable {R C σ : Type}

/-! ### Where superseded slots come from -/

namespace Container

/-- The slots of the second list were in the first one, with the config that they have. -/
def Inherits (l l' : List (Slot R C)) : Prop :=
  ∀ slot' ∈ l', ∃ slot ∈ l, slot'.generation = slot.generation ∧ slot'.config = slot.config

theorem Inherits.of_subset {l l' : List (Slot R C)} (h : ∀ slot ∈ l', slot ∈ l) :
    Inherits l l' := by
  intro slot hslot
  exact ⟨slot, h slot hslot, rfl, rfl⟩

theorem inherits_returnTo (g : Nat) (l : List (Slot R C)) : Inherits l (returnTo g l).1 := by
  induction l with
  | nil => exact .of_subset fun _ hslot => hslot
  | cons first rest ih =>
      intro slot' hslot'
      by_cases hg : first.generation = g
      · by_cases hlast : (returned first).leases = 0
        · simp only [returnTo, hg, if_true, hlast] at hslot'
          exact ⟨slot', List.mem_cons_of_mem first hslot', rfl, rfl⟩
        · simp only [returnTo, hg, if_true, hlast, if_false] at hslot'
          rcases List.mem_cons.mp hslot' with rfl | hslot'
          · exact ⟨first, List.mem_cons_self, rfl, rfl⟩
          · exact ⟨slot', List.mem_cons_of_mem first hslot', rfl, rfl⟩
      · simp only [returnTo, hg, if_false] at hslot'
        rcases List.mem_cons.mp hslot' with rfl | hslot'
        · exact ⟨slot', List.mem_cons_self, rfl, rfl⟩
        · obtain ⟨slot, hslot, hsame⟩ := ih slot' hslot'
          exact ⟨slot, List.mem_cons_of_mem first hslot, hsame⟩

theorem inherits_giveBack (cb : Callbacks R C σ) (c : Container R C) (g : Nat) (w : σ) :
    Inherits c.superseded (giveBack cb c g w).container.superseded := by
  by_cases hg : c.generation = g
  · by_cases hlast : c.phase = .draining ∧ c.unleased.leases = 0
    · rw [giveBack_last hg hlast.1 hlast.2]
      exact .of_subset fun _ hslot => hslot
    · rw [giveBack_current hg hlast]
      exact .of_subset fun _ hslot => hslot
  · obtain ⟨w', closings, hstep, -⟩ := giveBack_superseded cb w hg
    rw [hstep]
    exact inherits_returnTo g c.superseded

theorem superseded_close (cb : Callbacks R C σ) (c : Container R C) (w : σ) :
    (close cb c w).container.superseded = c.superseded := by
  cases hclosed : c.isClosed with
  | true => rw [close_of_closed hclosed]
  | false =>
      by_cases hidle : c.leases = 0
      · rw [close_of_idle hclosed hidle]
        rfl
      · rw [close_of_leased hclosed hidle]

theorem mem_superseded_update (cb : Callbacks R C σ) (c : Container R C) (w : σ) :
    ∀ slot ∈ (update cb c w).container.superseded, slot ∈ c.slots := by
  have hold : ∀ slot ∈ c.superseded, slot ∈ c.slots := fun slot hslot =>
    List.mem_cons_of_mem c.current hslot
  have hexit := exit_update cb c w
  generalize update cb c w = s at hexit
  cases hexit with
  | closed | noCompare | notFetched | notCompared | kept | noReset | notReset | reset
  | notConstructed => exact hold
  | @replaced new object w₂ w₃ hd hmake =>
      have hkept : ∀ slot ∈ ((c.supersede object new).keep c.current).superseded,
          slot ∈ c.slots := by
        intro slot hslot
        by_cases hidle : c.current.leases = 0
        · rw [keep_idle hidle] at hslot
          exact hold slot hslot
        · rw [keep_leased hidle] at hslot
          rcases List.mem_append.mp hslot with hslot | hslot
          · exact hold slot hslot
          · rw [List.mem_singleton.mp hslot]
            exact List.mem_cons_self
      have hretired := retired cb c.current (c.supersede object new) w₃
      generalize retire cb c.current (c.supersede object new) w₃ = s at hretired
      cases hretired with
      | stranded | waiting => exact hkept
      | closed => exact hold

end Container

namespace Session

open Container (Inherits)

theorem inherits_release (s : Session R C σ) (owner : String) :
    Inherits s.container.superseded (s.release owner).2.container.superseded := by
  cases hlookup : s.held.lookup owner with
  | none =>
      rw [release_of_none hlookup]
      exact .of_subset fun _ hslot => hslot
  | some g =>
      rw [release_of_some hlookup]
      exact Container.inherits_giveBack s.callbacks s.container g s.world

theorem inherits_serve (s : Session R C σ) (r : Request) :
    Inherits s.container.slots (s.serve r).container.superseded := by
  have hwider : ∀ {l : List (Slot R C)}, Inherits s.container.superseded l →
      Inherits s.container.slots l := by
    intro l hl slot' hslot'
    obtain ⟨slot, hslot, hsame⟩ := hl slot' hslot'
    exact ⟨slot, List.mem_cons_of_mem _ hslot, hsame⟩
  cases r with
  | update =>
      exact .of_subset (Container.mem_superseded_update s.callbacks s.container s.world)
  | lease owner =>
      change Inherits s.container.slots (s.lease owner).2.container.superseded
      cases hclosed : s.container.isClosed with
      | true =>
          rw [lease_of_closed hclosed]
          exact .of_subset fun slot hslot => List.mem_cons_of_mem _ hslot
      | false =>
          rw [lease_of_open hclosed]
          exact hwider (inherits_release { s with container := s.container.leased } owner)
  | giveBack owner => exact hwider (inherits_release s owner)
  | close =>
      change Inherits s.container.slots (s.container.close s.callbacks s.world).container.superseded
      rw [Container.superseded_close]
      exact .of_subset fun slot hslot => List.mem_cons_of_mem _ hslot

/-! ### Leases in a run -/

/-- Whether a request returns the lease of an owner. A new lease in its name returns the one
before. -/
def returns (s : Session R C σ) (owner : String) : Request → Bool
  | .giveBack other => other == owner
  | .lease other => other == owner && !s.container.isClosed
  | .update | .close => false

def keeps (s : Session R C σ) (owner : String) : List Request → Bool
  | [] => true
  | r :: rest => !s.returns owner r && (s.serve r).keeps owner rest

def grant? (s : Session R C σ) : Request → Option Nat
  | .lease owner =>
      match s.lease owner with
      | (.ok _, s) => s.held.lookup owner
      | (.error _, _) => none
  | .update | .giveBack _ | .close => none

/-- The generations of the leases that are granted in a run, in order. -/
def granted (s : Session R C σ) : List Request → List Nat
  | [] => []
  | r :: rest => (s.grant? r).toList ++ (s.serve r).granted rest

theorem lookup_release {s : Session R C σ} {owner other : String} (hne : other ≠ owner) :
    (s.release other).2.held.lookup owner = s.held.lookup owner := by
  cases hlookup : s.held.lookup other with
  | none => rw [release_of_none hlookup]
  | some g =>
      rw [release_of_some hlookup]
      exact lookup_filter_of_ne s.held (Ne.symm hne)

theorem lookup_serve {s : Session R C σ} {owner : String} {r : Request}
    (hkept : s.returns owner r = false) :
    (s.serve r).held.lookup owner = s.held.lookup owner := by
  cases r with
  | update => rfl
  | close => rfl
  | giveBack other =>
      have hne : other ≠ owner := by simpa [returns] using hkept
      exact lookup_release hne
  | lease other =>
      change (s.lease other).2.held.lookup owner = _
      cases hclosed : s.container.isClosed with
      | true => rw [lease_of_closed hclosed]
      | false =>
          have hne : other ≠ owner := by simpa [returns, hclosed] using hkept
          rw [lease_of_open hclosed, holding, lookup_cons_eq, if_neg (Ne.symm hne)]
          exact lookup_release hne

theorem lookup_after {s : Session R C σ} {owner : String} {requests : List Request}
    (hkept : s.keeps owner requests = true) :
    (s.after requests).held.lookup owner = s.held.lookup owner := by
  induction requests generalizing s with
  | nil => rfl
  | cons r rest ih =>
      obtain ⟨hr, hrest⟩ := Bool.and_eq_true_iff.mp hkept
      have hstep := lookup_serve (Bool.not_eq_true' _ ▸ hr)
      rw [after_cons, ih hrest, hstep]

theorem lease_result {s : Session R C σ} (h : s.container.isClosed = false) (owner : String) :
    (s.lease owner).1 = .ok s.container.current.object := by
  simp only [lease, Container.lease?_of_open h]
  rfl

theorem lookup_lease {s : Session R C σ} (h : s.container.isClosed = false) (owner : String) :
    (s.lease owner).2.held.lookup owner = some s.container.generation := by
  rw [lease_of_open h, holding, lookup_cons_eq, if_pos rfl]

theorem grant?_lease {s : Session R C σ} (h : s.container.isClosed = false) (owner : String) :
    s.grant? (.lease owner) = some s.container.generation := by
  have hresult := lease_result h owner
  have hlookup := lookup_lease h owner
  rcases hlease : s.lease owner with ⟨result, s'⟩
  rw [hlease] at hresult hlookup
  obtain rfl : result = .ok s.container.current.object := hresult
  simpa only [grant?, hlease] using hlookup

theorem grant?_eq_some {s : Session R C σ} {r : Request} {g : Nat} (h : s.grant? r = some g) :
    g = s.container.generation := by
  cases r with
  | update => exact absurd h nofun
  | giveBack owner => exact absurd h nofun
  | close => exact absurd h nofun
  | lease owner =>
      cases hclosed : s.container.isClosed with
      | true => simp [grant?, lease, Container.lease?_of_closed hclosed] at h
      | false =>
          rw [grant?_lease hclosed owner] at h
          exact (Option.some.inj h).symm

/-! ### Generations in a run -/

variable {cb : Callbacks R C σ} {s : Session (Numbered R) C (Recorded C σ)}

theorem Tenancy.run (h : Tenancy cb [] s) (requests : List Request) :
    Tenancy cb [] (s.after requests) :=
  after_induction (fun _ r kept => kept.serve r) h requests

theorem generation_serve (h : Tenancy cb [] s) (r : Request) :
    (s.serve r).container.generation = s.container.generation +
      if r = .update ∧ s.update.1 = .ok .replace then 1 else 0 := by
  by_cases hr : r = .update
  · subst hr
    obtain ⟨a, -, hresult, -, -, hstanding⟩ := update_attempt h
    have hgeneration := congrArg Container.Standing.generation hstanding
    rw [show (s.serve .update).container.generation =
      s.container.generation + if a.result = .ok .replace then 1 else 0 from hgeneration, hresult]
    simp only [true_and]
  · have hstanding := (quiet_serve h.callbacks hr).1
    rw [if_neg fun hboth => hr hboth.1]
    exact congrArg Container.Standing.generation hstanding

theorem le_generation_serve (h : Tenancy cb [] s) (r : Request) :
    s.container.generation ≤ (s.serve r).container.generation := by
  rw [generation_serve h r]
  exact Nat.le_add_right _ _

theorem le_of_mem_granted (h : Tenancy cb [] s) {requests : List Request} :
    ∀ g ∈ s.granted requests, s.container.generation ≤ g := by
  induction requests generalizing s with
  | nil => exact nofun
  | cons r rest ih =>
      intro g hg
      rcases List.mem_append.mp hg with hg | hg
      · exact Nat.le_of_eq (grant?_eq_some (Option.mem_toList.mp hg)).symm
      · exact Nat.le_trans (le_generation_serve h r) (ih (h.serve r) g hg)

theorem granted_ascending (h : Tenancy cb [] s) (requests : List Request) :
    (s.granted requests).Pairwise (· ≤ ·) := by
  induction requests generalizing s with
  | nil => exact .nil
  | cons r rest ih =>
      rw [granted, List.pairwise_append]
      refine ⟨?_, ih (h.serve r), ?_⟩
      · cases s.grant? r <;> simp
      · intro g hg later hlater
        rw [grant?_eq_some (Option.mem_toList.mp hg)]
        exact Nat.le_trans (le_generation_serve h r) (le_of_mem_granted (h.serve r) later hlater)

theorem exists_replacement (h : Tenancy cb [] s) (requests : List Request)
    (hne : (s.after requests).container.generation ≠ s.container.generation) :
    ∃ first second, requests = first ++ .update :: second ∧
      (s.after first).container.generation = s.container.generation ∧
      (s.after first).update.1 = .ok .replace := by
  induction requests generalizing s with
  | nil => exact absurd rfl hne
  | cons r rest ih =>
      by_cases hreplaced : r = .update ∧ s.update.1 = .ok .replace
      · obtain ⟨rfl, hresult⟩ := hreplaced
        exact ⟨[], rest, rfl, rfl, hresult⟩
      · have hsame : (s.serve r).container.generation = s.container.generation := by
          rw [generation_serve h r, if_neg hreplaced, Nat.add_zero]
        rw [after_cons, ← hsame] at hne
        obtain ⟨first, second, hrest, hgeneration, hresult⟩ := ih (h.serve r) hne
        refine ⟨r :: first, second, by rw [hrest, List.cons_append], ?_, hresult⟩
        rw [after_cons, hgeneration, hsame]

/-! ### The config of a superseded slot -/

theorem Tenancy.eq_current (h : Tenancy cb [] s) {slot : Slot (Numbered R) C}
    (hslot : slot ∈ s.container.slots) (hg : slot.generation = s.container.generation) :
    slot = s.container.current := by
  rcases List.mem_cons.mp hslot with rfl | hslot
  · rfl
  · have holder := (h.books.older slot hslot).2
    omega

theorem config_stays (h : Tenancy cb [] s) {g : Nat} {config : Snapshot C}
    (hover : g < s.container.generation)
    (hconfig : ∀ slot ∈ s.container.slots, slot.generation = g → slot.config = config)
    (requests : List Request) :
    ∀ slot ∈ (s.after requests).container.slots, slot.generation = g → slot.config = config := by
  induction requests generalizing s with
  | nil => exact hconfig
  | cons r rest ih =>
      have hlater : g < (s.serve r).container.generation :=
        Nat.lt_of_lt_of_le hover (le_generation_serve h r)
      refine ih (h.serve r) hlater ?_
      -- the current slot has a later generation, so the slot is one that was inherited
      intro slot' hslot' hg
      rcases List.mem_cons.mp hslot' with rfl | hslot'
      · exact absurd hg (Nat.ne_of_gt hlater)
      · obtain ⟨slot, hslot, hgeneration, hsame⟩ := inherits_serve s r slot' hslot'
        rw [hsame]
        exact hconfig slot hslot (hgeneration.symm.trans hg)

/-- An object that was replaced has the config for good that was in force then. -/
theorem config_of_replaced (h : Tenancy cb [] s) (hreplaced : s.update.1 = .ok .replace)
    (requests : List Request) :
    ∀ slot ∈ ((s.serve .update).after requests).container.slots,
      slot.generation = s.container.generation → slot.config = s.container.current.config := by
  have hnext : (s.serve .update).container.generation = s.container.generation + 1 := by
    rw [generation_serve h .update, if_pos ⟨rfl, hreplaced⟩]
  refine config_stays (h.serve .update) (by omega) ?_ requests
  intro slot' hslot' hg
  rcases List.mem_cons.mp hslot' with rfl | hslot'
  · have hcurrent : (s.serve .update).container.generation = s.container.generation := hg
    omega
  · obtain ⟨slot, hslot, hgeneration, hsame⟩ := inherits_serve s .update slot' hslot'
    rw [hsame, h.eq_current hslot (hgeneration.symm.trans hg)]

theorem Tenancy.leased?_of_lookup (h : Tenancy cb [] s) {owner : String} {g : Nat}
    (hlookup : s.held.lookup owner = some g) :
    ∃ slot ∈ s.container.slots, s.leased? owner = some slot ∧ slot.generation = g ∧
      slot.object.number = g := by
  obtain ⟨before, after, hheld, -⟩ := List.lookup_eq_some_iff.mp hlookup
  have hmem : (owner, g) ∈ s.held := by
    rw [hheld]
    exact List.mem_append_right before List.mem_cons_self
  obtain ⟨slot, hslot, hfind, hgeneration, hnumber, -⟩ := h.slot_of_held hmem
  refine ⟨slot, hslot, ?_, hgeneration, hnumber⟩
  rw [leased?, hlookup]
  exact hfind

theorem leased?_of_keeps (h : Tenancy cb [] s) {owner : String} {g : Nat}
    (hlookup : s.held.lookup owner = some g) {later : List Request}
    (hkept : s.keeps owner later = true) :
    ∃ slot ∈ (s.after later).container.slots, (s.after later).leased? owner = some slot ∧
      slot.generation = g ∧ slot.object.number = g := by
  refine (h.run later).leased?_of_lookup ?_
  rw [lookup_after hkept]
  exact hlookup

/-- Once its generation is over, a slot has the config for good that was in force at the moment of
the replacement. -/
theorem exists_last_config (h : Tenancy cb [] s) {later : List Request}
    (hover : (s.after later).container.generation ≠ s.container.generation) :
    ∃ first second, later = first ++ .update :: second ∧
      (s.after first).container.generation = s.container.generation ∧
      (s.after first).update.1 = .ok .replace ∧
      ∀ more, ∀ slot ∈ (s.after (later ++ more)).container.slots,
        slot.generation = s.container.generation →
          slot.config = (s.after first).container.current.config := by
  obtain ⟨first, second, rfl, hmoment, hreplaced⟩ := exists_replacement h later hover
  refine ⟨first, second, rfl, hmoment, hreplaced, ?_⟩
  intro more slot hslot hg
  have hfrozen := config_of_replaced (h.run first) hreplaced (second ++ more)
  have hafter : s.after (first ++ .update :: second ++ more) =
      ((s.after first).serve .update).after (second ++ more) := by
    rw [List.append_assoc]
    exact List.foldl_append
  rw [hafter] at hslot
  exact hfrozen slot hslot (hg.trans hmoment.symm)

/-- A lease is on the newest object there is, and for as long as it is held it shows that object and
no other. While no other object takes its place, the lease shows the slot of the container, with
every config that is put in force. Once an update has replaced the object, the lease shows the
config that was in force then, whatever comes after. -/
theorem held_lease_is_stable {cb : Callbacks R C σ} {name : String} {w : σ}
    {s : Session (Numbered R) C (Recorded C σ)} {w' : Recorded C σ}
    (built : start name cb.recorded ⟨w, []⟩ = (.ok s, w')) (before : List Request) :
    let t := s.after before
    (start name cb w = (.ok (s.plain cb), w'.world) ∧ t.plain cb = (s.plain cb).after before) ∧
    (s.granted before).Pairwise (· ≤ ·) ∧
    (t.update.1 = .ok .replace → t.update.2.world.made = t.world.made + 1 ∧
      t.update.2.container.current.object.number = t.update.2.world.made ∧
      ∀ later, ∀ g ∈ t.update.2.granted later, t.container.generation < g) ∧
    ∀ owner, t.container.isClosed = false →
      let u := t.serve (.lease owner)
      let g := t.container.generation
      t.grant? (.lease owner) = some g ∧
      ∃ o, (t.lease owner).1 = .ok o ∧ o.number = t.world.made ∧ o.number = g ∧
        ∀ later, u.keeps owner later = true →
          let v := u.after later
          ∃ slot, v.leased? owner = some slot ∧ slot.generation = g ∧
            slot.object.number = o.number ∧
            (v.container.generation = g → slot = v.container.current) ∧
            (v.container.generation ≠ g → ∃ first second, later = first ++ .update :: second ∧
              (u.after first).container.generation = g ∧
              (u.after first).update.1 = .ok .replace ∧
              slot.config = (u.after first).container.current.config ∧
              ∀ more, u.keeps owner (later ++ more) = true → ∃ slot',
                (u.after (later ++ more)).leased? owner = some slot' ∧
                  slot'.config = slot.config) := by
  intro t
  have hstart : Tenancy cb [] s := Tenancy.start built
  have htenancy : Tenancy cb [] t := Tenancy.after built before
  have hnumber : t.container.current.object.number = t.container.generation :=
    htenancy.books.numbered _ List.mem_cons_self
  refine ⟨⟨plain_start built, plain_after hstart.callbacks before⟩,
    granted_ascending hstart before, ?_, ?_⟩
  · intro hreplaced
    have hnext : Tenancy cb [] t.update.2 := htenancy.serve .update
    have hgeneration : t.update.2.container.generation = t.container.generation + 1 :=
      (generation_serve htenancy .update).trans (by rw [if_pos ⟨rfl, hreplaced⟩])
    refine ⟨?_, ?_, ?_⟩
    · rw [hnext.books.made, hgeneration, htenancy.books.made]
    · rw [hnext.books.made]
      exact hnext.books.numbered _ List.mem_cons_self
    · intro later g hg
      have hle := le_of_mem_granted hnext g hg
      omega
  · intro owner hopen u g
    have hleased : Tenancy cb [] u := htenancy.serve (.lease owner)
    have hsame : u.container.generation = g := by
      rw [generation_serve htenancy (.lease owner), if_neg (by simp), Nat.add_zero]
    have hlookup : u.held.lookup owner = some g := lookup_lease hopen owner
    refine ⟨grant?_lease hopen owner, t.container.current.object, lease_result hopen owner,
      hnumber.trans htenancy.books.made.symm, hnumber, ?_⟩
    intro later hkept v
    obtain ⟨slot, hslot, hfind, hgeneration, hobject⟩ := leased?_of_keeps hleased hlookup hkept
    refine ⟨slot, hfind, hgeneration, hobject.trans hnumber.symm, ?_, ?_⟩
    · intro hcurrent
      exact (hleased.run later).eq_current hslot (hgeneration.trans hcurrent.symm)
    · intro hover
      rw [← hsame] at hover hgeneration
      obtain ⟨first, second, hsplit, hmoment, hreplaced, hfrozen⟩ := exists_last_config hleased hover
      have hnow : slot.config = (u.after first).container.current.config := by
        refine hfrozen [] slot ?_ hgeneration
        rw [List.append_nil]
        exact hslot
      refine ⟨first, second, hsplit, hmoment.trans hsame, hreplaced, hnow, ?_⟩
      intro more hmore
      obtain ⟨slot', hslot', hfind', hgeneration', -⟩ := leased?_of_keeps hleased hlookup hmore
      refine ⟨slot', hfind', ?_⟩
      rw [hfrozen more slot' hslot' (hgeneration'.trans hsame.symm), hnow]

/-- Of three configs the first is taken in place, the second asks for a new object and the third for
nothing. -/
private def drifting : Callbacks Nat Nat Nat where
  fetch := fun _ n => (.ok n, n + 1)
  compare := some fun _ _ new n =>
    (.ok (if new % 3 = 0 then .keep else if new % 3 = 1 then .reset else .replace), n)
  construct := fun _ config n => (.ok config, n)
  reset := some fun _ object _ _ n => (.ok (), object, n)
  close := fun object n => (.ok (), object, n)
  spawn := fun _ n => (.ok (), n)

private def founded : Session (Numbered Nat) Nat (Recorded Nat Nat) where
  callbacks := drifting.recorded
  container := .fresh "pool" ⟨1, 0⟩ 0
  world := ⟨1, [.fetch none (.ok 0), .construct none 0 (.ok 1)]⟩

/-- A lease sees the reset of its object, and not the one after its object was replaced. -/
theorem held_lease_is_stable_replaced :
    start "pool" drifting.recorded ⟨0, []⟩ = (.ok founded, founded.world) ∧
      let u := founded.serve (.lease "a")
      let later := [.update, .lease "b", .update, .update, .update, .giveBack "b", .close]
      founded.container.isClosed = false ∧ u.keeps "a" later = true ∧
      (u.after later).container.generation = 2 ∧
      (u.after later).container.current.config = ⟨3, 4⟩ ∧
      ∃ slot, (u.after later).leased? "a" = some slot ∧ slot.generation = 1 ∧
        slot.object.number = 1 ∧ slot.config = ⟨1, 1⟩ ∧
        ∃ first second, later = first ++ .update :: second ∧
          slot.config = (u.after first).container.current.config := by
  have built : start "pool" drifting.recorded ⟨0, []⟩ = (.ok founded, founded.world) := rfl
  refine ⟨built, rfl, rfl, rfl, rfl, ?_⟩
  obtain ⟨-, -, -, hleases⟩ := held_lease_is_stable built []
  obtain ⟨-, o, -, -, hobject, hshown⟩ := hleases "a" rfl
  obtain ⟨slot, hslot, hgeneration, hnumber, -, hover⟩ :=
    hshown [.update, .lease "b", .update, .update, .update, .giveBack "b", .close] rfl
  obtain ⟨first, second, hmoment, -, -, hconfig, -⟩ := hover (by decide)
  refine ⟨slot, hslot, hgeneration, hnumber.trans hobject, ?_, first, second, hmoment, hconfig⟩
  have hfound : ((founded.serve (.lease "a")).after
      [.update, .lease "b", .update, .update, .update, .giveBack "b", .close]).leased? "a" =
        some ⟨⟨1, 0⟩, ⟨1, 1⟩, 1, 1⟩ := rfl
  exact congrArg Slot.config (Option.some.inj (hslot.symm.trans hfound))

end Session

end LiveConfig
