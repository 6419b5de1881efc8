import LiveConfig.Proofs.Container.Leases
import LiveConfig.Proofs.Container.Recording
/-!
Runs of a session: any requests in any order.

A request that cannot be met leaves the session as it is, so a run is a list of requests. A lease
goes by the name of its owner, and there are as many names as a run has leases.
-/

set_option autoImplicit false

namespace LiveConfig

variable {R C σ : Type}

/-- What can be asked of a session. -/
inductive Request where
  | update
  | lease (owner : String)
  | giveBack (owner : String)
  | close
deriving DecidableEq, Repr

namespace Session

def serve (s : Session R C σ) : Request → Session R C σ
  | .update => s.update.2
  | .lease owner => (s.lease owner).2
  | .giveBack owner => (s.release owner).2
  | .close => s.close.2

def after (s : Session R C σ) (requests : List Request) : Session R C σ := requests.foldl serve s

theorem after_cons (s : Session R C σ) (r : Request) (rest : List Request) :
    s.after (r :: rest) = (s.serve r).after rest := rfl

theorem start_eq_ok_iff {name : String} {cb : Callbacks R C σ} {w w' : σ} {s : Session R C σ} :
    start name cb w = (.ok s, w') ↔ ∃ c, Container.build name cb w = (.ok c, w') ∧
      s = { callbacks := cb, container := c, world := w' } := by
  rcases hbuild : Container.build name cb w with ⟨built, w₁⟩
  cases built with
  | error e => simp [start, hbuild, Outcome.map]
  | panic p => simp [start, hbuild, Outcome.map]
  | ok c =>
      simp only [start, hbuild, Outcome.map, Prod.mk.injEq, Outcome.ok.injEq]
      constructor
      · rintro ⟨rfl, rfl⟩
        exact ⟨c, ⟨rfl, rfl⟩, rfl⟩
      · rintro ⟨c', ⟨rfl, rfl⟩, rfl⟩
        exact ⟨rfl, rfl⟩

theorem after_induction {P : Session R C σ → Prop} (keeps : ∀ s r, P s → P (s.serve r))
    {s : Session R C σ} (start : P s) (requests : List Request) : P (s.after requests) := by
  induction requests generalizing s with
  | nil => exact start
  | cons r rest ih => exact ih (keeps s r start)

def holding (s : Session R C σ) (owner : String) (generation : Nat) : Session R C σ :=
  { s with held := (owner, generation) :: s.held }

theorem lease_of_closed {s : Session R C σ} (h : s.container.isClosed = true) (owner : String) :
    (s.lease owner).2 = s := by
  simp only [lease, Container.lease?_of_closed h]

theorem lease_of_open {s : Session R C σ} (h : s.container.isClosed = false) (owner : String) :
    (s.lease owner).2 =
      ({ s with container := s.container.leased }.release owner).2.holding owner
        s.container.generation := by
  simp only [lease, Container.lease?_of_open h, holding]

theorem release_of_none {s : Session R C σ} {owner : String} (h : s.held.lookup owner = none) :
    (s.release owner).2 = s := by
  simp only [release, h]

theorem release_of_some {s : Session R C σ} {owner : String} {generation : Nat}
    (h : s.held.lookup owner = some generation) :
    (s.release owner).2 =
      ({ s with held := s.held.filter (·.1 ≠ owner) }.take
        (s.container.giveBack s.callbacks generation s.world)).2 := by
  simp only [release, h]

end Session

/-! ### Forgetting the recording of a run -/

namespace Container

variable (cb : Callbacks R C σ) (c : Container (Numbered R) C) (w : Recorded C σ)

private theorem plain_close : (close cb.recorded c w).plain = close cb c.plain w.world := by
  cases hclosed : c.isClosed with
  | true =>
      have hplain : c.plain.isClosed = true := hclosed
      rw [close_of_closed hclosed, close_of_closed hplain]
      rfl
  | false =>
      have hplain : c.plain.isClosed = false := hclosed
      by_cases hidle : c.leases = 0
      · rw [close_of_idle hclosed hidle, close_of_idle hplain (show c.plain.leases = 0 from hidle)]
        rfl
      · rw [close_of_leased hclosed hidle,
          close_of_leased hplain (show c.plain.leases ≠ 0 from hidle)]
        rfl

private theorem plain_returnTo (generation : Nat) (l : List (Slot (Numbered R) C)) :
    returnTo generation (l.map Slot.plain) =
      ((returnTo generation l).1.map Slot.plain, (returnTo generation l).2.map Slot.plain) := by
  induction l with
  | nil => rfl
  | cons slot rest ih =>
      by_cases hg : slot.generation = generation
      · have hp : slot.plain.generation = generation := hg
        have hl : (returned slot.plain).leases = (returned slot).leases := rfl
        by_cases hz : (returned slot).leases = 0
        · simp only [List.map_cons, returnTo, hg, hp, hl, hz, if_true, Option.map_some]
          rfl
        · simp only [List.map_cons, returnTo, hg, hp, hl, hz, if_true, if_false, Option.map_none]
          rfl
      · have hp : ¬slot.plain.generation = generation := hg
        simp only [List.map_cons, returnTo, hg, hp, if_false, ih]

private theorem plain_giveBack (generation : Nat) :
    (giveBack cb.recorded c generation w).plain = giveBack cb c.plain generation w.world := by
  by_cases hg : c.generation = generation
  · have hp : c.plain.generation = generation := hg
    by_cases hlast : c.phase = .draining ∧ c.unleased.leases = 0
    · rw [giveBack_last hg hlast.1 hlast.2, giveBack_last hp
        (show c.plain.phase = .draining from hlast.1)
        (show c.plain.unleased.leases = 0 from hlast.2)]
      rfl
    · rw [giveBack_current hg hlast, giveBack_current hp
        (show ¬(c.plain.phase = .draining ∧ c.plain.unleased.leases = 0) from hlast)]
      rfl
  · have hp : ¬c.plain.generation = generation := hg
    have hl : c.plain.superseded = c.superseded.map Slot.plain := rfl
    simp only [giveBack, hg, hp, if_false, hl, plain_returnTo]
    cases (returnTo generation c.superseded).2 with
    | none => rfl
    | some slot =>
        have hthreads : slot.plain.generation ∈ c.plain.stranded ↔
            slot.generation ∈ c.stranded := Iff.rfl
        by_cases hstranded : slot.generation ∈ c.stranded
        · simp only [Option.map_some, hthreads, hstranded, if_true]
          rfl
        · simp only [Option.map_some, hthreads, hstranded, if_false]
          rfl

end Container

namespace Session

variable {ρ : Type}

def plain (cb : Callbacks R C σ) (s : Session (Numbered R) C (Recorded C σ)) : Session R C σ :=
  ⟨cb, s.container.plain, s.world.world, s.held, s.notices⟩

variable {cb : Callbacks R C σ} {s : Session (Numbered R) C (Recorded C σ)}

private theorem plain_take (step : Step (Numbered R) C (Recorded C σ) ρ) :
    (s.take step).2.plain cb = ((s.plain cb).take step.plain).2 := rfl

private theorem plain_release (h : s.callbacks = cb.recorded) (owner : String) :
    (s.release owner).2.plain cb = ((s.plain cb).release owner).2 := by
  cases hlookup : s.held.lookup owner with
  | none =>
      have hplain : (s.plain cb).held.lookup owner = none := hlookup
      rw [release_of_none hlookup, release_of_none hplain]
  | some generation =>
      have hplain : (s.plain cb).held.lookup owner = some generation := hlookup
      rw [release_of_some hlookup, release_of_some hplain, plain_take, h,
        Container.plain_giveBack]
      rfl

private theorem plain_lease (h : s.callbacks = cb.recorded) (owner : String) :
    (s.lease owner).2.plain cb = ((s.plain cb).lease owner).2 := by
  cases hclosed : s.container.isClosed with
  | true =>
      have hplain : (s.plain cb).container.isClosed = true := hclosed
      rw [lease_of_closed hclosed, lease_of_closed hplain]
  | false =>
      have hplain : (s.plain cb).container.isClosed = false := hclosed
      have hrest := plain_release (s := { s with container := s.container.leased }) h owner
      rw [lease_of_open hclosed, lease_of_open hplain]
      exact congrArg (·.holding owner s.container.generation) hrest

private theorem plain_serve (h : s.callbacks = cb.recorded) (r : Request) :
    (s.serve r).plain cb = (s.plain cb).serve r := by
  cases r with
  | update =>
      change (s.take (s.container.update s.callbacks s.world)).2.plain cb = _
      rw [h, plain_take, Container.plain_update]
      rfl
  | lease owner => exact plain_lease h owner
  | giveBack owner => exact plain_release h owner
  | close =>
      change (s.take (s.container.close s.callbacks s.world)).2.plain cb = _
      rw [h, plain_take, Container.plain_close]
      rfl

theorem callbacks_release (s : Session R C σ) (owner : String) :
    (s.release owner).2.callbacks = s.callbacks := by
  cases h : s.held.lookup owner with
  | none => rw [release_of_none h]
  | some generation => rw [release_of_some h]; rfl

theorem callbacks_serve (s : Session R C σ) (r : Request) :
    (s.serve r).callbacks = s.callbacks := by
  cases r with
  | update => rfl
  | lease owner =>
      change (s.lease owner).2.callbacks = _
      cases hclosed : s.container.isClosed with
      | true => rw [lease_of_closed hclosed]
      | false => rw [lease_of_open hclosed]; exact callbacks_release _ owner
  | giveBack owner => exact callbacks_release s owner
  | close => rfl

/-- A recorded run takes the steps of the plain one. -/
theorem plain_after (h : s.callbacks = cb.recorded) (requests : List Request) :
    (s.after requests).plain cb = (s.plain cb).after requests := by
  induction requests generalizing s with
  | nil => rfl
  | cons r rest ih =>
      rw [after_cons, after_cons, ih ((callbacks_serve s r).trans h), plain_serve h]

theorem plain_start {name : String} {w : σ} {s : Session (Numbered R) C (Recorded C σ)}
    {w' : Recorded C σ} (h : start name cb.recorded ⟨w, []⟩ = (.ok s, w')) :
    start name cb w = (.ok (s.plain cb), w'.world) := by
  obtain ⟨c, hbuild, rfl⟩ := start_eq_ok_iff.mp h
  obtain ⟨config, object, w₁, hfetch, hmake, rfl⟩ := Container.build_eq_ok_iff.mp hbuild
  refine start_eq_ok_iff.mpr ⟨Container.fresh name object.object config, ?_, rfl⟩
  exact Container.build_eq_ok_iff.mpr ⟨config, object.object, w₁.world,
    (Callbacks.recorded_fetch hfetch).1, (Callbacks.recorded_construct hmake).1, rfl⟩

end Session

end LiveConfig
