import LiveConfig.Proofs.Container.Lasting
/-!
The end of a container: what the first close sets off, and when it is over.

A container is closed as soon as it is asked to, and refuses everything from then on but the return
of leases. Its close ends when nobody leases the object that is current, with the outcome of that
object's close, and leases on other objects do not matter to it. A panic of that close is one of its
outcomes.
-/

set_option autoImplicit false

namespace LiveConfig

variable {R C σ ρ : Type}

theorem Container.giveBack_stays {cb : Callbacks R C σ} {c : Container R C} {g : Nat} {w : σ}
    (h : ¬(c.generation = g ∧ c.phase = .draining ∧ c.unleased.leases = 0)) :
    (giveBack cb c g w).result = none ∧ (giveBack cb c g w).container.phase = c.phase := by
  by_cases hg : c.generation = g
  · have hstep : giveBack cb c g w = _ := giveBack_current hg fun hboth => h ⟨hg, hboth⟩
    rw [hstep]
    exact ⟨rfl, rfl⟩
  · obtain ⟨w', closings, hstep, -⟩ := giveBack_superseded cb w hg
    rw [hstep]
    exact ⟨rfl, rfl⟩

namespace Session

/-! ### What a closed container refuses -/

theorem take_idle (s : Session R C σ) (result : ρ) :
    s.take ⟨result, s.container, s.world, []⟩ = (result, s) := by
  simp [take, Step.notices]

theorem update_closed {s : Session R C σ} (h : s.container.isClosed = true) :
    s.update = (.error .closed, s) := by
  rw [update, show s.container.update s.callbacks s.world =
    ⟨.error .closed, s.container, s.world, []⟩ by simp [Container.update, h]]
  exact take_idle s _

theorem close_closed {s : Session R C σ} (h : s.container.isClosed = true) :
    s.close = (.done (.error .alreadyClosed), s) := by
  rw [close, Container.close_of_closed h]
  exact take_idle s _

theorem lease_closed {s : Session R C σ} (h : s.container.isClosed = true) (owner : String) :
    s.lease owner = (.error .closed, s) := by
  simp only [lease, Container.lease?_of_closed h]

/-- Leases the current object for an owner who takes it for granted that there is one. -/
def demand (s : Session R C σ) (owner : String) : Except Panic R × Session R C σ :=
  match s.lease owner with
  | (.error e, s) => (.error ⟨s.container.leasePanic e⟩, s)
  | (.ok object, s) => (.ok object, s)

theorem demand_closed {s : Session R C σ} (h : s.container.isClosed = true) (owner : String) :
    s.demand owner = (.error ⟨s.container.leasePanic .closed⟩, s) := by
  simp only [demand, lease_closed h]

theorem serve_closed {s : Session R C σ} (h : s.container.isClosed = true) {r : Request}
    (hr : ∀ owner, r ≠ .giveBack owner) : s.serve r = s := by
  cases r with
  | update => exact congrArg Prod.snd (update_closed h)
  | lease owner => exact congrArg Prod.snd (lease_closed h owner)
  | giveBack owner => exact absurd rfl (hr owner)
  | close => exact congrArg Prod.snd (close_closed h)

/-! ### The end of the first close -/

/-- How the first close ends, if it ends with this request. A close of a closed container is another
one. -/
def ending? (s : Session R C σ) : Request → Option (Outcome ContainerError Unit)
  | .close =>
      match s.container.isClosed, s.close.1 with
      | false, .done outcome => some outcome
      | _, _ => none
  | .giveBack owner =>
      match (s.release owner).1 with
      | some (some (.done outcome)) => some outcome
      | _ => none
  | .update | .lease _ => none

/-- How the first close ends in a run; an entry for every time that it does. -/
def endings (s : Session R C σ) : List Request → List (Outcome ContainerError Unit)
  | [] => []
  | r :: rest => (s.ending? r).toList ++ (s.serve r).endings rest

/-- The close has come so far that `ends` was answered about it: nothing while the current object is
leased, and then the outcome of the only close of that object. -/
def Underway (ends : List (Outcome ContainerError Unit))
    (s : Session (Numbered R) C (Recorded C σ)) : Prop :=
  (s.container.phase = .draining ∧ ends = []) ∨
    (s.container.phase = .closed ∧ ∃ outcome, ends = [outcome.mapError .close] ∧
      s.world.calls.filter (Call.closes s.container.generation) =
        [.close s.container.generation outcome])

variable {cb : Callbacks R C σ} {s : Session (Numbered R) C (Recorded C σ)}

theorem Underway.isClosed {ends : List (Outcome ContainerError Unit)} (h : Underway ends s) :
    s.container.isClosed = true := by
  rcases h with ⟨hphase, -⟩ | ⟨hphase, -⟩ <;> simp [Container.isClosed, hphase]

theorem closes_eq (h : Tenancy cb [] s) (m : Nat) :
    s.world.closes m = if s.container.Spent (s.held.map Prod.snd) m then 1 else 0 := by
  simpa using h.books.closes m

theorem no_close_of_phase (h : Tenancy cb [] s) (hphase : s.container.phase ≠ .closed) :
    s.world.calls.filter (Call.closes s.container.generation) = [] := by
  have hin : ¬s.container.Spent (s.held.map Prod.snd) s.container.generation := by
    rintro (⟨-, hlt, -⟩ | ⟨-, hclosed⟩)
    · exact absurd hlt (Nat.lt_irrefl _)
    · exact hphase hclosed
  have hcloses := closes_eq h s.container.generation
  rw [if_neg hin, Recorded.closes, List.countP_eq_length_filter] at hcloses
  exact List.length_eq_zero_iff.mp hcloses

theorem one_close_of_append {calls more : List (Call C)} {n : Nat} {outcome : Outcome String Unit}
    (hcalls : s.world.calls = calls ++ more)
    (hclosed : calls.filter (Call.closes n) = [.close n outcome])
    (hcloses : s.world.closes n = 1) :
    s.world.calls.filter (Call.closes n) = [.close n outcome] := by
  rw [Recorded.closes, List.countP_eq_length_filter, hcalls, List.filter_append, hclosed,
    List.length_append] at hcloses
  have hnone : more.filter (Call.closes n) = [] := by
    refine List.length_eq_zero_iff.mp ?_
    simpa using hcloses
  rw [hcalls, List.filter_append, hclosed, hnone, List.append_nil]

theorem finished (h : Tenancy cb [] s) (leases : Nat) {w : Recorded C σ}
    (hcalls : w.calls = s.world.calls) (hphase : s.container.phase ≠ .closed) :
    let c : Container (Numbered R) C :=
      { s.container with current := { s.container.current with leases := leases } }
    ∃ outcome, (Container.finishClose cb.recorded c w).result = outcome.mapError .close ∧
      (Container.finishClose cb.recorded c w).world.calls.filter
        (Call.closes s.container.generation) = [.close s.container.generation outcome] := by
  intro c
  have hnumber : c.current.object.number = s.container.generation :=
    h.books.numbered s.container.current List.mem_cons_self
  refine ⟨(cb.close c.current.object.object w.world).1, rfl, ?_⟩
  change (w.calls ++ [Call.close c.current.object.number _]).filter _ = _
  rw [hnumber, List.filter_append, hcalls, no_close_of_phase h hphase, List.nil_append,
    List.filter_cons_of_pos (by simp [Call.closes]), List.filter_nil]

theorem closing_close (h : Tenancy cb [] s) (hopen : s.container.isClosed = false) :
    Underway (s.ending? .close).toList (s.serve .close) := by
  have hserving : s.container.phase ≠ .closed := Container.phase_ne_closed hopen
  by_cases hidle : s.container.leases = 0
  · obtain ⟨outcome, hresult, hcalls⟩ :=
      finished h s.container.current.leases (w := s.world) rfl hserving
    have hclose : s.container.close cb.recorded s.world = _ :=
      Container.close_of_idle hopen hidle
    have hends : s.ending? .close = some (outcome.mapError .close) := by
      simp only [ending?, hopen, close, take, h.callbacks, hclose]
      exact congrArg some hresult
    rw [hends]
    refine .inr ⟨?_, outcome, rfl, ?_⟩
    · change (s.container.close s.callbacks s.world).container.phase = _
      rw [h.callbacks, hclose]
      rfl
    · change (s.container.close s.callbacks s.world).world.calls.filter
        (Call.closes (s.container.close s.callbacks s.world).container.generation) =
          [.close (s.container.close s.callbacks s.world).container.generation outcome]
      rw [h.callbacks, hclose]
      exact hcalls
  · have hclose : s.container.close cb.recorded s.world = _ :=
      Container.close_of_leased hopen hidle
    have hends : s.ending? .close = none := by
      simp only [ending?, hopen, close, take, h.callbacks, hclose]
    rw [hends]
    refine .inl ⟨?_, rfl⟩
    change (s.container.close s.callbacks s.world).container.phase = _
    rw [h.callbacks, hclose]

theorem serve_giveBack (h : Tenancy cb [] s) {owner : String} {g : Nat}
    (hlookup : s.held.lookup owner = some g) :
    let step := Container.giveBack cb.recorded s.container g s.world
    (s.release owner).1 = some step.result ∧
      (s.serve (.giveBack owner)).container = step.container ∧
      (s.serve (.giveBack owner)).world = step.world := by
  intro step
  refine ⟨?_, ?_, ?_⟩
  · simp only [release, hlookup, take, h.callbacks, step]
  · change (s.release owner).2.container = _
    rw [release_of_some hlookup, h.callbacks]
    rfl
  · change (s.release owner).2.world = _
    rw [release_of_some hlookup, h.callbacks]
    rfl

theorem closing_last (h : Tenancy cb [] s) {owner : String} {g : Nat}
    (hlookup : s.held.lookup owner = some g) (hg : s.container.generation = g)
    (hphase : s.container.phase = .draining) (hzero : s.container.unleased.leases = 0) :
    Underway (s.ending? (.giveBack owner)).toList (s.serve (.giveBack owner)) := by
  obtain ⟨hresult, hcontainer, hworld⟩ := serve_giveBack h hlookup
  have hstep : Container.giveBack cb.recorded s.container g s.world = _ :=
    Container.giveBack_last hg hphase hzero
  have hserving : s.container.phase ≠ .closed := by
    rw [hphase]
    exact nofun
  obtain ⟨outcome, houtcome, hclosed⟩ :=
    finished h (s.container.current.leases - 1) (w := s.world) rfl hserving
  have hended : s.ending? (.giveBack owner) = some (outcome.mapError .close) := by
    simp only [ending?, hresult, hstep]
    exact congrArg some houtcome
  rw [hended]
  refine .inr ⟨?_, outcome, rfl, ?_⟩
  · rw [hcontainer, hstep]
    rfl
  · rw [hcontainer, hworld, hstep]
    exact hclosed

theorem closing_returned (h : Tenancy cb [] s) {ends : List (Outcome ContainerError Unit)}
    (hends : Underway ends s) {owner : String} {g : Nat} (hlookup : s.held.lookup owner = some g)
    (hwaits : ¬(s.container.generation = g ∧ s.container.phase = .draining ∧
      s.container.unleased.leases = 0)) :
    s.ending? (.giveBack owner) = none ∧ Underway ends (s.serve (.giveBack owner)) := by
  obtain ⟨hresult, hcontainer, hworld⟩ := serve_giveBack h hlookup
  obtain ⟨hstanding, more, hcalls, -⟩ := Container.quiet_giveBack cb s.container g s.world
  have hstays := @Container.giveBack_stays _ _ _ cb.recorded s.container g s.world hwaits
  obtain ⟨hnothing, hphase⟩ := hstays
  rw [← hcontainer] at hphase
  refine ⟨by simp only [ending?, hresult, hnothing], ?_⟩
  rcases hends with ⟨hdraining, hempty⟩ | ⟨hover, outcome, houtcome, hclosed⟩
  · exact .inl ⟨hphase.trans hdraining, hempty⟩
  · refine .inr ⟨hphase.trans hover, outcome, houtcome, ?_⟩
    have hgeneration : (s.serve (.giveBack owner)).container.generation =
        s.container.generation := by
      rw [hcontainer]
      exact congrArg Container.Standing.generation hstanding
    -- the object counts as spent, and the books have one close for it at most
    have honce := closes_eq (h.serve (.giveBack owner))
      (s.serve (.giveBack owner)).container.generation
    rw [if_pos (.inr ⟨rfl, hphase.trans hover⟩), hgeneration] at honce
    rw [hgeneration]
    exact one_close_of_append (hworld ▸ hcalls) hclosed honce

theorem closing_giveBack (h : Tenancy cb [] s) {ends : List (Outcome ContainerError Unit)}
    (hends : Underway ends s) (owner : String) :
    Underway (ends ++ (s.ending? (.giveBack owner)).toList) (s.serve (.giveBack owner)) := by
  cases hlookup : s.held.lookup owner with
  | none =>
      have hrelease : s.release owner = (none, s) := by simp only [release, hlookup]
      have hnone : s.ending? (.giveBack owner) = none := by simp only [ending?, hrelease]
      rw [hnone, Option.toList_none, List.append_nil,
        show s.serve (.giveBack owner) = s from congrArg Prod.snd hrelease]
      exact hends
  | some g =>
      by_cases hlast : s.container.generation = g ∧ s.container.phase = .draining ∧
          s.container.unleased.leases = 0
      · obtain ⟨hg, hphase, hzero⟩ := hlast
        rcases hends with ⟨-, rfl⟩ | ⟨hover, -⟩
        · exact closing_last h hlookup hg hphase hzero
        · rw [hphase] at hover
          cases hover
      · obtain ⟨hnone, hgoes⟩ := closing_returned h hends hlookup hlast
        rw [hnone, Option.toList_none, List.append_nil]
        exact hgoes

/-- The close goes on with every request. -/
theorem closing_serve (h : Tenancy cb [] s) {ends : List (Outcome ContainerError Unit)}
    (hends : Underway ends s) (r : Request) :
    Underway (ends ++ (s.ending? r).toList) (s.serve r) := by
  have hclosed := hends.isClosed
  have hrefused : ∀ r, (∀ owner, r ≠ .giveBack owner) → s.ending? r = none →
      Underway (ends ++ (s.ending? r).toList) (s.serve r) := by
    intro r hr hnone
    rw [hnone, Option.toList_none, List.append_nil, serve_closed hclosed hr]
    exact hends
  cases r with
  | update => exact hrefused .update nofun rfl
  | lease owner => exact hrefused (.lease owner) (fun _ h => Request.noConfusion h) rfl
  | giveBack owner => exact closing_giveBack h hends owner
  | close => exact hrefused .close nofun (by simp only [ending?, hclosed])

theorem closing_after (h : Tenancy cb [] s) {ends : List (Outcome ContainerError Unit)}
    (hends : Underway ends s) (requests : List Request) :
    Underway (ends ++ s.endings requests) (s.after requests) := by
  induction requests generalizing s ends with
  | nil =>
      rw [endings, List.append_nil]
      exact hends
  | cons r rest ih =>
      rw [endings, ← List.append_assoc]
      exact ih (h.serve r) (closing_serve h hends r)

theorem standing_closed (h : Tenancy cb [] s) {ends : List (Outcome ContainerError Unit)}
    (hends : Underway ends s) (requests : List Request) :
    (s.after requests).container.standing = s.container.standing := by
  induction requests generalizing s ends with
  | nil => rfl
  | cons r rest ih =>
      rw [after_cons, ih (h.serve r) (closing_serve h hends r)]
      by_cases hr : r = .update
      · rw [hr, serve_closed hends.isClosed fun _ h => Request.noConfusion h]
      · exact (quiet_serve h.callbacks hr).1

/-! ### Leases and closes -/

/-- A superseded object is closed once nobody leases it, if there is a thread to close it. -/
theorem closes_superseded (h : Tenancy cb [] s) {m : Nat} (hpos : 1 ≤ m)
    (hlt : m < s.container.generation) (hthread : m ∉ s.world.stranded) :
    s.world.closes m = if s.leasesOn m = 0 then 1 else 0 := by
  rw [← h.books.stranded] at hthread
  rw [closes_eq h, h.leasesOn_eq]
  refine if_congr ?_ rfl rfl
  rw [List.count_eq_zero]
  constructor
  · rintro (⟨-, -, hfree, -⟩ | ⟨hsame, -⟩)
    · exact hfree
    · exact absurd hsame (Nat.ne_of_lt hlt)
  · intro hfree
    exact .inl ⟨hpos, hlt, hfree, hthread⟩

theorem closes_stranded (h : Tenancy cb [] s) {m : Nat} (hstranded : m ∈ s.world.stranded) :
    s.world.closes m = 0 := by
  rw [← h.books.stranded] at hstranded
  rw [closes_eq h, if_neg]
  rintro (⟨-, -, -, hthread⟩ | ⟨rfl, -⟩)
  · exact hthread hstranded
  · exact h.books.not_stranded hstranded

theorem not_closed_of_held (h : Tenancy cb [] s) {lease : String × Nat} (hlease : lease ∈ s.held) :
    ∃ slot, s.container.slot? lease.2 = some slot ∧ slot.generation = lease.2 ∧
      s.world.closes slot.object.number = 0 := by
  obtain ⟨slot, hslot, hfind, hgeneration, hnumber, hpos⟩ := h.slot_of_held hlease
  refine ⟨slot, hfind, hgeneration, ?_⟩
  rw [closes_eq h, hnumber, if_neg]
  rintro (⟨-, -, hfree, -⟩ | ⟨hsame, hover⟩)
  · exact hfree (List.mem_map.mpr ⟨lease, hlease, rfl⟩)
  · have hcurrent := h.eq_current hslot (hgeneration.trans hsame)
    have hclosed : s.container.isClosed = true := by simp [Container.isClosed, hover]
    have hzero : s.container.leases = 0 := (h.books.drained hclosed).mp hover
    rw [hcurrent] at hpos
    exact absurd hzero (Nat.ne_of_gt hpos)

theorem phase_closed_iff (h : Tenancy cb [] s) (hclosed : s.container.isClosed = true) :
    s.container.phase = .closed ↔ s.leasesOn s.container.generation = 0 := by
  have hcount : s.leasesOn s.container.generation = s.container.leases := by
    rw [h.leasesOn_eq]
    exact h.books.current_counted.symm
  rw [hcount]
  exact h.books.drained hclosed

/-- Closing goes one way and waits for the current object alone. From the first close on the
container refuses leases, updates and closes as they come, without a call, and stands as it does.
The close ends with the close of the object that was current, called once and not before the last
lease on it is back. A superseded object is closed once when its own last lease is back, unless no
thread could be started for it, and a lease that is out is on an object that was not closed. -/
theorem close_waits_for_current {cb : Callbacks R C σ} {name : String} {w : σ}
    {s : Session (Numbered R) C (Recorded C σ)} {w' : Recorded C σ}
    (built : start name cb.recorded ⟨w, []⟩ = (.ok s, w')) (before later : List Request)
    (opened : (s.after before).container.isClosed = false) :
    let t := s.after before
    let u := t.serve .close
    let v := u.after later
    let n := t.container.current.object.number
    (start name cb w = (.ok (s.plain cb), w'.world) ∧
      v.plain cb = (s.plain cb).after (before ++ .close :: later)) ∧
    (u.container.isClosed = true ∧ v.container.isClosed = true) ∧
    (v.container.standing = t.container.standing ∧ v.update = (.error .closed, v) ∧
      v.close = (.done (.error .alreadyClosed), v) ∧
      ∀ owner, v.lease owner = (.error .closed, v) ∧
        v.demand owner = (.error ⟨v.container.leasePanic .closed⟩, v)) ∧
    (v.leasesOn n ≠ 0 → t.endings (.close :: later) = [] ∧ v.world.closes n = 0) ∧
    (v.leasesOn n = 0 → ∃ outcome, t.endings (.close :: later) = [outcome.mapError .close] ∧
      v.world.calls.filter (Call.closes n) = [.close n outcome]) ∧
    (∀ m, 1 ≤ m → m < n → m ∉ v.world.stranded →
      v.world.closes m = if v.leasesOn m = 0 then 1 else 0) ∧
    (n ∉ v.world.stranded ∧ ∀ m ∈ v.world.stranded, v.world.closes m = 0) ∧
    ∀ lease ∈ v.held, ∃ slot, v.container.slot? lease.2 = some slot ∧
      slot.generation = lease.2 ∧ v.world.closes slot.object.number = 0 := by
  intro t u v n
  have hstart : Tenancy cb [] s := Tenancy.start built
  have ht : Tenancy cb [] t := hstart.run before
  have hu : Tenancy cb [] u := ht.serve .close
  have hv : Tenancy cb [] v := hu.run later
  have hfirst : Underway (t.ending? .close).toList u := closing_close ht opened
  have hends : Underway (t.endings (.close :: later)) v := closing_after hu hfirst later
  have hclosed : v.container.isClosed = true := hends.isClosed
  have hstands : v.container.standing = t.container.standing := by
    have hclose := (quiet_serve ht.callbacks (r := .close) nofun).1
    exact (standing_closed hu hfirst later).trans hclose
  have hn : n = v.container.generation := by
    have hnumber : n = t.container.generation :=
      ht.books.numbered t.container.current List.mem_cons_self
    exact hnumber.trans (congrArg Container.Standing.generation hstands).symm
  have hdrained : v.container.phase = .closed ↔ v.leasesOn n = 0 := hn ▸ phase_closed_iff hv hclosed
  refine ⟨⟨plain_start built, ?_⟩, ⟨hfirst.isClosed, hclosed⟩,
    ⟨hstands, update_closed hclosed, close_closed hclosed,
      fun owner => ⟨lease_closed hclosed owner, demand_closed hclosed owner⟩⟩, ?_, ?_,
    fun m hpos hlt => closes_superseded hv hpos (hn ▸ hlt),
    ⟨?_, fun m => closes_stranded hv⟩, fun lease => not_closed_of_held hv⟩
  · rw [← plain_after hstart.callbacks]
    have happend : s.after (before ++ .close :: later) = (s.after before).after (.close :: later) :=
      List.foldl_append
    rw [happend]
    rfl
  · intro hleased
    have hphase : v.container.phase ≠ .closed := fun hc => hleased (hdrained.mp hc)
    rcases hends with ⟨-, hempty⟩ | ⟨hover, -⟩
    · refine ⟨hempty, ?_⟩
      rw [hn, Recorded.closes, List.countP_eq_length_filter, no_close_of_phase hv hphase]
      rfl
    · exact absurd hover hphase
  · intro hfree
    have hphase : v.container.phase = .closed := hdrained.mpr hfree
    rcases hends with ⟨hwaiting, -⟩ | ⟨-, outcome, houtcome, hcalls⟩
    · rw [hphase] at hwaiting
      cases hwaiting
    · exact ⟨outcome, houtcome, hn ▸ hcalls⟩
  · rw [hn, ← hv.books.stranded]
    exact hv.books.not_stranded

/-- Every config asks for a new object. The second object closes with an error and the third with a
panic, and no thread can be started for the second. -/
private def lingering : Callbacks Nat Nat Nat where
  fetch := fun _ n => (.ok n, n + 1)
  compare := some fun _ _ _ n => (.ok .replace, n)
  construct := fun _ config n => (.ok config, n)
  reset := none
  close := fun object n =>
    (if object = 1 then .error "broken pipe" else if object = 2 then .panic "lost" else .ok (),
      object, n)
  spawn := fun object n => (if object = 1 then .error "no threads left" else .ok (), n)

private def settled : Session (Numbered Nat) Nat (Recorded Nat Nat) where
  callbacks := lingering.recorded
  container := .fresh "pool" ⟨1, 0⟩ 0
  world := ⟨1, [.fetch none (.ok 0), .construct none 0 (.ok 1)]⟩

/-- The close waits for the lease on the second object; the one on the first does not matter. That
of the third panics, and the second is left unclosed. -/
theorem close_waits_for_current_leased :
    start "pool" lingering.recorded ⟨0, []⟩ = (.ok settled, settled.world) ∧
      (let t := settled.after [.lease "a", .update, .lease "b"]
      t.container.isClosed = false ∧ t.container.current.object.number = 2 ∧
      t.endings [.close, .lease "c", .update] = [] ∧
      t.endings [.close, .lease "c", .update, .giveBack "b", .close] =
        [.error (.close "broken pipe")] ∧
      ((t.serve .close).after [.lease "c", .update, .giveBack "b", .close]).leasesOn 1 = 1) ∧
      let t := settled.after [.update, .update]
      t.container.isClosed = false ∧ t.endings [.close] = [.panic "lost"] ∧
      (t.serve .close).world.closes 2 = 0 := by
  have built : start "pool" lingering.recorded ⟨0, []⟩ = (.ok settled, settled.world) := rfl
  have waits := close_waits_for_current built [.lease "a", .update, .lease "b"]
  have panics := close_waits_for_current built [.update, .update] [] rfl
  refine ⟨built, ⟨rfl, rfl, ?_, ?_, rfl⟩, rfl, ?_, ?_⟩
  · obtain ⟨-, -, -, hleased, -⟩ := waits [.lease "c", .update] rfl
    exact (hleased (by decide)).1
  · obtain ⟨-, -, -, -, hfree, -⟩ := waits [.lease "c", .update, .giveBack "b", .close] rfl
    obtain ⟨outcome, hends, hcalls⟩ := hfree (by decide)
    have hcall : [Call.close 2 (.error "broken pipe")] = [Call.close 2 outcome] := hcalls
    rw [hends]
    injection hcall with hcall
    injection hcall with _ houtcome
    rw [← houtcome]
    rfl
  · obtain ⟨-, -, -, -, hfree, -⟩ := panics
    obtain ⟨outcome, hends, hcalls⟩ := hfree (by decide)
    have hcall : [Call.close 3 (.panic "lost")] = [Call.close 3 outcome] := hcalls
    rw [hends]
    injection hcall with hcall
    injection hcall with _ houtcome
    rw [← houtcome]
    rfl
  · obtain ⟨-, -, -, -, -, -, ⟨-, hunclosed⟩, -⟩ := panics
    exact hunclosed 2 (by decide)

end Session

end LiveConfig
