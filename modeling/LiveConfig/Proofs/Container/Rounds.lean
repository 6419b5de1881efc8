import LiveConfig.Proofs.Container.Alone
/-!
How long a call for a lease takes.

Every step of its own brings the call further: to the next place of its round, to another round, or
to its end. A round that fails has seen a change of the container, so the changes during the call
bound its rounds, and with them its steps. It waits only for the lock of the waiter, and whoever has
that lock frees it with one step or two.
-/

set_option autoImplicit false

namespace LiveConfig

variable {R C : Type} {n : Nat}

/-- How far a round is; `spot` is where the thread stands at each slot. -/
def LeaseStage.place (spot : Nat → Spot) : LeaseStage → Nat
  | testing => 0
  | loading => 1
  | counting _ => 2
  | trying g => 3 + (spot g).depth

theorem Spot.depth_le (spot : Spot) : spot.depth ≤ 5 := by
  cases spot with
  | outside | counted => exact Nat.zero_le _
  | returning stage refused => cases stage <;> simp [depth, ReturnStage.depth]

theorem LeaseStage.place_le (spot : Nat → Spot) (stage : LeaseStage) : stage.place spot ≤ 8 := by
  cases stage with
  | testing | loading | counting => simp [place]
  | trying g => exact Nat.add_le_add_left (spot g).depth_le 3

namespace SharedContainer

variable {s : SharedContainer R C n} {i j : Fin n} {m : ContainerMove R C n} {c : LeaseCall}

/-! ### Changes that take effect -/

def takesEffect (s : SharedContainer R C n) : ContainerMove R C n → Bool
  | .go i =>
      match s.calls i with
      | .update (.swapping ..) => true
      | .close .swapping => !s.closed
      | _ => false
  | _ => false

/-- How many moves replace the object or close the container. -/
def effects (s : SharedContainer R C n) : List (ContainerMove R C n) → Nat
  | [] => 0
  | m :: rest => (s.takesEffect m).toNat + (s.move m).effects rest

theorem changes_goLease (s : SharedContainer R C n) (i : Fin n) (c : LeaseCall) :
    (s.goLease i c).changes = s.changes := by
  simp only [goLease]
  split
  · split <;> rfl
  · rfl
  · rfl
  · split <;> rfl

theorem changes_goUpdate (h : Sound s) {stage : UpdateStage R C} (hcall : s.calls i = .update stage) :
    (s.goUpdate i stage).changes = s.changes + (s.takesEffect (.go i)).toNat := by
  simp only [takesEffect, hcall]
  cases stage with
  | locking | testing =>
      simp only [goUpdate]
      split
      · rfl
      · first | rfl | split <;> rfl
  | swapping object new g =>
      have hfits := h.fits i
      rw [hcall] at hfits
      have hcurrent := hfits.2.1 g rfl
      change g + 1 + s.closed.toNat = s.current + s.closed.toNat + 1
      omega
  | fetching | loading | comparing | resetting | adopting | constructing | disposing | leaving => rfl

theorem changes_goClose {stage : CloseStage} (hcall : s.calls i = .close stage) :
    (s.goClose i stage).changes = s.changes + (s.takesEffect (.go i)).toNat := by
  simp only [takesEffect, hcall]
  cases stage with
  | locking | draining =>
      simp only [goClose]
      split <;> rfl
  | swapping =>
      simp only [goClose, changes]
      cases hclosed : s.closed with
      | true => simp [put, hclosed]
      | false => simp [put]
  | refusing | loading | unlocking | closing => rfl

theorem changes_move (h : Sound s) (m : ContainerMove R C n) :
    (s.move m).changes = s.changes + (s.takesEffect m).toNat := by
  cases m with
  | go i =>
      simp only [move, go]
      split
      · rename_i hcall
        simp [takesEffect, hcall]
      · rename_i c hcall
        simp [takesEffect, hcall, changes_goLease]
      · rename_i g hcall
        simp only [takesEffect, hcall, goRelease]
        split <;> rfl
      · exact changes_goUpdate h ‹_›
      · exact changes_goClose ‹_›
  | lease | update | close | abandon | touch | reply =>
      simp only [move]
      split <;> rfl
  | release =>
      simp only [move]
      split
      · split <;> rfl
      · rfl
  | dispose | discard =>
      simp only [move]
      split <;> rfl
  | pass | wake => rfl

theorem changes_after (h : Sound s) (moves : List (ContainerMove R C n)) :
    (s.after moves).changes = s.changes + s.effects moves := by
  induction moves generalizing s with
  | nil => rfl
  | cons m rest ih =>
      have hrest := ih (h.move m)
      rw [changes_move h m] at hrest
      rw [effects, ← Nat.add_assoc]
      exact hrest

/-! ### A call for a lease and the moves of others -/

theorem calls_put_of_ne (hne : i ≠ j) (call : ContainerCall R C) :
    (s.put j call).calls i = s.calls i := Function.update_of_ne hne _ _

theorem calls_go_of_ne (hne : i ≠ j) : (s.go j).calls i = s.calls i := by
  simp only [go]
  split
  · rfl
  · simp only [goLease]
    split
    · split <;> exact calls_put_of_ne hne _
    · exact calls_put_of_ne hne _
    · exact calls_put_of_ne hne _
    · split
      · exact calls_put_of_ne hne _
      · exact calls_put_of_ne hne _
      · rfl
  · simp only [goRelease]
    split
    · exact calls_put_of_ne hne _
    · rfl
  · rename_i stage _
    cases stage with
    | locking | testing =>
        simp only [goUpdate]
        split
        · exact calls_put_of_ne hne _
        · first | rfl | split <;> exact calls_put_of_ne hne _
    | loading | adopting | swapping | disposing | leaving => exact calls_put_of_ne hne _
    | fetching | comparing | resetting | constructing => rfl
  · rename_i stage _
    cases stage with
    | locking | swapping | draining =>
        simp only [goClose]
        split <;> first | rfl | exact calls_put_of_ne hne _
    | refusing | loading | unlocking => exact calls_put_of_ne hne _
    | closing => rfl

theorem calls_move_of_ne (hcall : s.calls i = .lease c) (hne : m ≠ .go i) :
    (s.move m).calls i = .lease c := by
  have hother : ∀ j, s.calls j ≠ s.calls i → i ≠ j := fun j hj hij => hj (hij ▸ rfl)
  rw [← hcall]
  cases m with
  | go j => exact calls_go_of_ne fun hij => hne (hij ▸ rfl)
  | lease j | update j | close j =>
      simp only [move]
      split
      · rename_i hj
        exact calls_put_of_ne (hother j (by simp [hj, hcall])) _
      · rfl
  | release j g =>
      simp only [move]
      split
      · rename_i hj
        split
        · exact calls_put_of_ne (hother j (by simp [hj, hcall])) _
        · rfl
      · rfl
  | abandon j =>
      simp only [move]
      split
      · rename_i hj
        exact calls_put_of_ne (hother j (by simp [hj, hcall])) _
      · rfl
  | touch j object =>
      simp only [move]
      split <;> rfl
  | reply j r =>
      simp only [move]
      split
      · rename_i hj
        exact calls_put_of_ne (hother j (by simp [hj, hcall])) _
      · rename_i hj
        exact calls_put_of_ne (hother j (by simp [hj, hcall])) _
      · rfl
  | dispose g | discard g outcome =>
      simp only [move]
      split <;> rfl
  | pass | wake => rfl

/-! ### The steps of a call for a lease -/

def walked (s : SharedContainer R C n) (i : Fin n) : Nat :=
  match s.calls i with
  | .lease c => 9 * c.rounds + c.stage.place (s.spot · i)
  | _ => 0

theorem walked_of {t : SharedContainer R C n} (hcall : t.calls i = .lease c) :
    t.walked i = 9 * c.rounds + c.stage.place (t.spot · i) := by
  rw [walked, hcall]

/-- A call for a lease ends: with a lease on a slot that is not retired, or because the container is
closed. -/
inductive LeaseEnd (s : SharedContainer R C n) (i : Fin n) (c : LeaseCall)
    (t : SharedContainer R C n) : Prop
  | leased (g : Nat) : t.calls i = .outside →
      t.answers = s.answers ++ [(i, .leased (some g) c.rounds)] →
      (s.slots g).retired = false → (t.slots g).retired = false →
      ((t.slots g).threads i).held = ((s.slots g).threads i).held + 1 → LeaseEnd s i c t
  | closed : t.calls i = .outside → t.answers = s.answers ++ [(i, .leased none c.rounds)] →
      s.closed = true → LeaseEnd s i c t

/-- What a step of its own makes of a call for a lease: it ends, it gets further, or it waits for
somebody else who has the lock of the waiter. -/
inductive LeaseStep (s : SharedContainer R C n) (i : Fin n) (c : LeaseCall)
    (t : SharedContainer R C n) : Prop
  | ends : LeaseEnd s i c t → LeaseStep s i c t
  | further (c' : LeaseCall) : t.calls i = .lease c' → c'.began = c.began → t.answers = s.answers →
      s.walked i < t.walked i → LeaseStep s i c t
  | waits (g : Nat) (p : Party n) : t = s → c.stage = .trying g →
      s.spot g i = .returning .locking true → (s.slots g).waiter = some p → p ≠ .thread i →
      LeaseStep s i c t

theorem lease_step_trying (h : Sound s) {g : Nat} (hcall : s.calls i = .lease c)
    (hstage : c.stage = .trying g) : LeaseStep s i c (s.goLease i c) := by
  have hseat := h.seated_of hcall hstage
  have hgo : (s.onSlot g (.go i)).slots g = (s.slots g).go i := Function.update_self ..
  have hput : ∀ t call, (put t i call : SharedContainer R C n).calls i = call := fun _ _ =>
    Function.update_self ..
  have hwalked : s.walked i = 9 * c.rounds + (3 + (s.spot g i).depth) := by
    rw [walked_of hcall, hstage]
    rfl
  have hlater : (s.onSlot g (.go i)).walked i =
      9 * c.rounds + (3 + ((s.onSlot g (.go i)).spot g i).depth) := by
    rw [walked_of (t := s.onSlot g (.go i)) hcall, hstage]
    rfl
  have htried := tried hstage hseat
  generalize s.goLease i c = t at htried
  cases htried with
  | leased hcounted hopen hout =>
      have hat : ((s.slots g).threads i).spot = .counted := hcounted
      refine .ends (.leased g (hput _ _) rfl hopen ?_ ?_)
      · change ((s.onSlot g (.go i)).slots g).retired = false
        rw [hgo]
        simp [SharedSlot.go, hat, hopen, SharedSlot.put]
      · change (((s.onSlot g (.go i)).slots g).threads i).held = _
        rw [hgo]
        simp [SharedSlot.go, hat, hopen, SharedSlot.put]
  | refused hcounted hretired hback =>
      refine .further c hcall rfl rfl ?_
      rw [hwalked, hlater, hcounted, hback]
      exact Nat.lt_add_one _
  | waits hlocking hwaiter =>
      obtain ⟨p, hp⟩ := Option.ne_none_iff_exists'.mp hwaiter
      refine .waits g p rfl hstage hlocking hp ?_
      rintro rfl
      have hlocks := ((h.slots g).locked i).mpr hp
      have hat : ((s.slots g).threads i).spot = .returning .locking true := hlocking
      rw [hat] at hlocks
      cases hlocks
  | @left stage hback hout =>
      refine .further _ (hput _ _) rfl rfl ?_
      rw [hwalked, walked_of (hput _ _), hback]
      change 9 * c.rounds + (3 + stage.depth) < 9 * (c.rounds + 1) + 0
      cases stage <;> simp only [ReturnStage.depth] <;> omega
  | deeper hback hon hdeeper =>
      refine .further c hcall rfl rfl ?_
      rw [hwalked, hlater, hback, hon]
      exact Nat.add_lt_add_left (Nat.add_lt_add_left hdeeper 3) _

theorem lease_step (h : Sound s) (hcall : s.calls i = .lease c) :
    LeaseStep s i c (s.move (.go i)) := by
  have hput : ∀ t call, (put t i call : SharedContainer R C n).calls i = call := fun _ _ =>
    Function.update_self ..
  have hmove : s.move (.go i) = s.goLease i c := by simp only [move, go, hcall]
  rw [hmove]
  cases hstage : c.stage with
  | testing =>
      simp only [goLease, hstage]
      split
      · exact .ends (.closed (hput _ _) rfl ‹_›)
      · refine .further _ (hput _ _) rfl rfl ?_
        rw [walked_of hcall, walked_of (hput _ _), hstage]
        exact Nat.lt_add_one _
  | loading =>
      simp only [goLease, hstage]
      refine .further _ (hput _ _) rfl rfl ?_
      rw [walked_of hcall, walked_of (hput _ _), hstage]
      exact Nat.lt_add_one _
  | counting g =>
      simp only [goLease, hstage]
      refine .further _ (hput _ _) rfl rfl ?_
      rw [walked_of hcall, walked_of (hput _ _), hstage]
      change 9 * c.rounds + 2 < 9 * c.rounds + (3 + _)
      omega
  | trying g => exact lease_step_trying h hcall hstage

/-- The rounds of a call are no more than the changes since it began and one more. -/
theorem rounds_le (h : Sound s) (hcall : s.calls i = .lease c) :
    c.rounds + c.began ≤ s.changes + 1 := by
  have hfits := h.fits i
  rw [hcall, Fits, LeaseFits] at hfits
  cases hstage : c.stage with
  | testing | loading =>
      rw [hstage] at hfits
      exact hfits.begun
  | counting g | trying g =>
      rw [hstage] at hfits
      exact hfits.1.begun

theorem walked_le (hcall : s.calls i = .lease c) : s.walked i ≤ 9 * c.rounds + 8 := by
  rw [walked_of hcall]
  exact Nat.add_le_add_left (c.stage.place_le _) _

theorem lease_run (h : Sound s) (hcall : s.calls i = .lease c) (during : List (ContainerMove R C n)) :
    (∃ c', (s.after during).calls i = .lease c' ∧ c'.began = c.began) ∨
      ∃ first rest c', during = first ++ .go i :: rest ∧ (s.after first).calls i = .lease c' ∧
        c'.began = c.began ∧ LeaseEnd (s.after first) i c' ((s.after first).move (.go i)) := by
  induction during generalizing s c with
  | nil => exact .inl ⟨c, hcall, rfl⟩
  | cons m rest ih =>
      have hnext : ∀ c', (s.move m).calls i = .lease c' → c'.began = c.began →
          (∃ c', (s.after (m :: rest)).calls i = .lease c' ∧ c'.began = c.began) ∨
          ∃ first rest' c', m :: rest = first ++ .go i :: rest' ∧
            (s.after first).calls i = .lease c' ∧ c'.began = c.began ∧
            LeaseEnd (s.after first) i c' ((s.after first).move (.go i)) := by
        intro c' hcall' hbegan
        rw [← hbegan]
        refine (ih (h.move m) hcall').imp_right ?_
        rintro ⟨first, rest', c₁, rfl, hrest⟩
        exact ⟨m :: first, rest', c₁, rfl, hrest⟩
      by_cases hm : m = .go i
      · subst hm
        cases lease_step h hcall with
        | ends hend => exact .inr ⟨[], rest, c, rfl, hcall, rfl, hend⟩
        | further c' hcall' hbegan => exact hnext c' hcall' hbegan
        | waits g p hsame => exact hnext c (by rw [hsame]; exact hcall) rfl
      · exact hnext c (calls_move_of_ne hcall hm) rfl

/-! ### Whoever has the lock of the waiter -/

/-- The moves that bring a call or the draining of a superseded slot further. -/
def IsStep (m : ContainerMove R C n) : Prop := (∃ j, m = .go j) ∨ ∃ g, m = .dispose g

theorem holder_step (h : Sound s) (hcall : s.calls i = .lease c) {g : Nat} {p : Party n}
    (hwaiter : (s.slots g).waiter = some p) (hne : p ≠ .thread i) :
    ∃ m, IsStep m ∧ s.takesEffect m = false ∧
      (s.move m).slots = (s.onSlot g (SharedSlot.holderMove p)).slots ∧ m ≠ .go i := by
  cases p with
  | thread j =>
      have hji : j ≠ i := fun hji => hne (hji ▸ rfl)
      have hlocks := ((h.slots g).locked j).mpr hwaiter
      have hspot : s.spot g j ≠ .outside := by
        intro hout
        have hat : ((s.slots g).threads j).spot = .outside := hout
        rw [hat] at hlocks
        cases hlocks
      have hslot := h.spots g j hspot
      have hstays : ∀ stage, s.spot g j = .returning stage true → stage.locks = true := by
        intro stage hback
        have hat : ((s.slots g).threads j).spot = .returning stage true := hback
        rw [hat] at hlocks
        exact hlocks
      refine ⟨.go j, .inl ⟨j, rfl⟩, ?_, ?_, fun hgo => hji (ContainerMove.go.inj hgo)⟩
      · simp only [takesEffect]
        cases hother : s.calls j with
        | outside | lease | release => rfl
        | update | close =>
            rw [hother] at hslot
            cases hslot
      · simp only [move, go]
        cases hother : s.calls j with
        | outside | update | close =>
            rw [hother] at hslot
            cases hslot
        | lease c' =>
            have hstage := ContainerCall.stage_of_slot? (hother ▸ hslot)
            have htried := tried hstage (h.seated_of hother hstage)
            simp only
            generalize s.goLease j c' = t at htried
            cases htried with
            | leased | refused | left | deeper => rfl
            | waits hlocking => cases hstays _ hlocking
        | release g' =>
            rw [hother] at hslot
            cases hslot
            simp only [goRelease]
            split <;> rfl
  | drainer =>
      have hlocks := (h.slots g).drainerLocked.mpr hwaiter
      have hunderway : (s.slots g).drainer.underway = true := by
        cases hstage : (s.slots g).drainer with
        | retiring | returned =>
            rw [hstage] at hlocks
            cases hlocks
        | locking | testing | parking | asleep | unlocking => rfl
      rcases h.driven g hunderway with hrunning | ⟨j, hj⟩
      · refine ⟨.dispose g, .inr ⟨g, rfl⟩, rfl, ?_, fun hgo => by cases hgo⟩
        simp only [move, hrunning, if_true]
        rfl
      · have hclose := ContainerCall.close_of_drains? hj
        refine ⟨.go j, .inl ⟨j, rfl⟩, ?_, ?_, fun hgo => ?_⟩
        · simp only [takesEffect, hclose]
        · simp only [move, go, hclose, goClose]
          split <;> rfl
        · cases hgo
          rw [hcall] at hclose
          cases hclose

theorem spot_of_holder {t : SharedContainer R C n} {g : Nat} {p : Party n} (hne : p ≠ .thread i)
    (hslots : t.slots = (s.onSlot g (SharedSlot.holderMove p)).slots) (g' : Nat) :
    t.spot g' i = s.spot g' i := by
  have hsame : (((s.slots g).move (SharedSlot.holderMove p)).threads i).spot =
      ((s.slots g).threads i).spot := by
    cases p with
    | thread j =>
        exact congrArg Worker.spot (SharedSlot.IsStepOf.go.threads fun hij => hne (hij ▸ rfl))
    | drainer => exact SharedSlot.IsAside.drain.spot i
  rw [spot, hslots]
  exact Sound.eq_onSlot (fun slot => (slot.threads i).spot) hsame g'

theorem waiter_freed (h : Sound s) (hcall : s.calls i = .lease c) {g : Nat} {p : Party n}
    (hwaiter : (s.slots g).waiter = some p) (hne : p ≠ .thread i) :
    ∃ more, (∀ m ∈ more, IsStep m) ∧ s.effects more = 0 ∧ ((s.after more).slots g).waiter = none ∧
      (s.after more).calls i = .lease c ∧ ∀ g', (s.after more).spot g' i = s.spot g' i := by
  obtain ⟨m, hm, heffect, hslots, hgo⟩ := holder_step h hcall hwaiter hne
  have hafter : (s.move m).slots g = (s.slots g).move (SharedSlot.holderMove p) := by
    rw [hslots, Sound.slots_onSlot_self]
  have hstays := calls_move_of_ne hcall hgo
  have hspot := spot_of_holder hne hslots
  rcases SharedSlot.holder_frees (h.slots g) hwaiter with hfree | ⟨hheld, hfree⟩
  · refine ⟨[m], by simpa using hm, by simp [effects, heffect], ?_, hstays, hspot⟩
    change ((s.move m).slots g).waiter = none
    rw [hafter, hfree]
  · rw [← hafter] at hheld
    obtain ⟨m', hm', heffect', hslots', hgo'⟩ := holder_step (h.move m) hstays hheld hne
    refine ⟨[m, m'], by simpa using ⟨hm, hm'⟩, by simp [effects, heffect, heffect'], ?_,
      calls_move_of_ne hstays hgo', fun g' => (spot_of_holder hne hslots' g').trans (hspot g')⟩
    change (((s.move m).move m').slots g).waiter = none
    rw [hslots', Sound.slots_onSlot_self, hafter, hfree]

/-! ### The end of a call for a lease -/

theorem effects_append (s : SharedContainer R C n) (first second : List (ContainerMove R C n)) :
    s.effects (first ++ second) = s.effects first + (s.after first).effects second := by
  induction first generalizing s with
  | nil => exact (Nat.zero_add _).symm
  | cons m rest ih =>
      rw [List.cons_append, effects, effects, ih, Nat.add_assoc]
      rfl

theorem takesEffect_of_lease (hcall : s.calls i = .lease c) : s.takesEffect (.go i) = false := by
  simp only [takesEffect, hcall]

/-- Steps bring a call for a lease further or to its end, whatever they have to wait for. -/
theorem lease_advances (h : Sound s) (hcall : s.calls i = .lease c) :
    ∃ more c', (∀ m ∈ more, IsStep m) ∧ s.effects more = 0 ∧ (s.after more).calls i = .lease c' ∧
      (LeaseEnd (s.after more) i c' ((s.after more).move (.go i)) ∨
        s.walked i < (s.after more).walked i) := by
  have hown : IsStep (.go i : ContainerMove R C n) := .inl ⟨i, rfl⟩
  cases lease_step h hcall with
  | ends hend => exact ⟨[], c, List.forall_mem_nil _, rfl, hcall, .inl hend⟩
  | further c' hcall' _ _ hfurther =>
      exact ⟨[.go i], c', by simpa using hown, by simp [effects, takesEffect_of_lease hcall], hcall',
        .inr hfurther⟩
  | waits g p _ hstage hlocking hwaiter hne =>
      obtain ⟨more, hmore, heffects, hfree, hstays, hspot⟩ := waiter_freed h hcall hwaiter hne
      have hwalked : (s.after more).walked i = s.walked i := by
        rw [walked_of hstays, walked_of hcall]
        exact congrArg (fun spot => 9 * c.rounds + c.stage.place spot) (funext hspot)
      cases lease_step (h.after more) hstays with
      | ends hend => exact ⟨more, c, hmore, heffects, hstays, .inl hend⟩
      | further c' hcall' _ _ hfurther =>
          refine ⟨more ++ [.go i], c', fun m hm => ?_, ?_, ?_, .inr ?_⟩
          · rcases List.mem_append.mp hm with hm | hm
            · exact hmore m hm
            · exact List.mem_singleton.mp hm ▸ hown
          · rw [effects_append, heffects, effects, takesEffect_of_lease hstays]
            rfl
          · rw [after_append]
            exact hcall'
          · rw [after_append, ← hwalked]
            exact hfurther
      | waits g' p' _ hstage' _ hwaiter' =>
          -- the lock is free now
          have hg : g' = g := LeaseStage.trying.inj (hstage'.symm.trans hstage)
          rw [hg, hfree] at hwaiter'
          cases hwaiter'

/-- Steps bring a call for a lease to its end without another change of the container. -/
theorem lease_can_end (h : Sound s) (hcall : s.calls i = .lease c) :
    ∃ more c', (∀ m ∈ more, IsStep m) ∧ s.effects more = 0 ∧ (s.after more).calls i = .lease c' ∧
      LeaseEnd (s.after more) i c' ((s.after more).move (.go i)) := by
  obtain ⟨left, hleft⟩ : ∃ left, 9 * (s.changes + 1) + 8 - s.walked i < left :=
    ⟨_, Nat.lt_succ_self _⟩
  induction left generalizing s c with
  | zero => exact absurd hleft (Nat.not_lt_zero _)
  | succ left ih =>
      obtain ⟨more, c₁, hmore, heffects, hcall₁, hend | hfurther⟩ := lease_advances h hcall
      · exact ⟨more, c₁, hmore, heffects, hcall₁, hend⟩
      · have hchanges : (s.after more).changes = s.changes := by
          rw [changes_after h, heffects]
          rfl
        have hle := walked_le hcall₁
        have hrounds := rounds_le (h.after more) hcall₁
        obtain ⟨more', c₂, hmore', heffects', hcall₂, hend⟩ :=
          ih (h.after more) hcall₁ (by omega)
        refine ⟨more ++ more', c₂, fun m hm => ?_, ?_, ?_, ?_⟩
        · exact (List.mem_append.mp hm).elim (hmore m) (hmore' m)
        · rw [effects_append, heffects, heffects']
        · rw [after_append]
          exact hcall₂
        · rw [after_append]
          exact hend

/-- A container in the hands of any threads, after any moves. A call that nobody interrupts does what
the container does. The current slot is retired only when the container is closed. So a call for a
lease, whatever is done in the meantime, is under way or has come to its end after no more rounds than
there were replacements and closes during it, and one more; it ends with a lease on a slot that is not
retired, or because the container is closed. A step of its own that does not end it brings it further,
unless somebody else has the lock of the waiter, and from where it is it can always be brought to its
end. -/
theorem lease_ends (n : Nat) (slot : Slot R C) (supplied : CallbackName → Bool)
    (moves : List (ContainerMove R C n)) :
    let s := (SharedContainer.start n slot supplied).after moves
    (∀ i (c : Container R C), s.calls i = .outside → s.Shows c → s.Agrees i c) ∧
      ((s.slots s.current).retired = true → s.closed = true) ∧
      ∀ i, s.calls i = .outside → ∀ during, let t := s.move (.lease i)
        (∃ c, (t.after during).calls i = .lease c ∧ c.rounds ≤ 1 + t.effects during ∧
          (t.after during).walked i ≤ 9 * (1 + t.effects during) + 8 ∧
          LeaseStep (t.after during) i c ((t.after during).move (.go i)) ∧
          ∃ more c', (∀ m ∈ more, IsStep m) ∧ (t.after during).effects more = 0 ∧
            ((t.after during).after more).calls i = .lease c' ∧
            LeaseEnd ((t.after during).after more) i c'
              (((t.after during).after more).move (.go i))) ∨
        ∃ first rest c, during = first ++ .go i :: rest ∧ (t.after first).calls i = .lease c ∧
          c.rounds ≤ 1 + t.effects first ∧
          LeaseEnd (t.after first) i c ((t.after first).move (.go i)) := by
  intro s
  have h : Sound s := (Sound.start n slot supplied).after moves
  refine ⟨fun i c houtside hshows => agrees h hshows houtside, fun hretired => ?_,
    fun i houtside during => ?_⟩
  · exact (h.retired _ hretired).resolve_left (not_not.mpr rfl)
  · intro t
    have ht : Sound t := h.move (.lease i)
    have hmove : t = s.put i (.lease { began := s.changes }) := by
      simp only [t, move, houtside]
    have hcall : t.calls i = .lease { began := s.changes } := by
      rw [hmove]
      exact Function.update_self ..
    have hchanges : t.changes = s.changes := by
      rw [hmove]
      rfl
    have hrounds : ∀ after c, (t.after after).calls i = .lease c → c.began = s.changes →
        c.rounds ≤ 1 + t.effects after := by
      intro after c hafter hbegan
      have hle := rounds_le (ht.after after) hafter
      rw [changes_after ht, hchanges, hbegan] at hle
      omega
    rcases lease_run ht hcall during with
      ⟨c, hunderway, hbegan⟩ | ⟨first, rest, c, rfl, hfirst, hbegan, hend⟩
    · have hafter := ht.after during
      have hle := hrounds during c hunderway hbegan
      refine .inl ⟨c, hunderway, hle, ?_, lease_step hafter hunderway,
        lease_can_end hafter hunderway⟩
      have hwalked := walked_le hunderway
      omega
    · exact .inr ⟨first, rest, c, rfl, hfirst, hrounds first c hfirst hbegan, hend⟩

def calling : SharedContainer Unit Nat 3 :=
  (SharedContainer.start 3 ⟨(), ⟨0, 3⟩, 1, 0⟩ fun _ => true).move (.lease 0)

/-- It has looked for the current slot when another thread replaces the object and the old slot is
retired. The slot refuses it, and it gets its lease in another round. -/
def overtaken : List (ContainerMove Unit Nat 3) :=
  [.go 0, .go 0, .update 1, .go 1, .go 1, .reply 1 (.fetched 5), .go 1, .reply 1 (.compared .replace),
    .reply 1 (.constructed ()), .go 1, .go 1, .go 1, .dispose 1] ++ List.replicate 11 (.go 0)

theorem lease_ends_overtaken :
    calling.effects overtaken = 1 ∧
      (calling.after overtaken).answers = [(1, .updated (.ok .replace)), (0, .leased (some 2) 2)] ∧
      ∃ first rest c, overtaken = first ++ .go 0 :: rest ∧ (calling.after first).calls 0 = .lease c ∧
        c.rounds ≤ 1 + calling.effects first ∧
        LeaseEnd (calling.after first) 0 c ((calling.after first).move (.go 0)) := by
  have hout : ∀ c, (calling.after overtaken).calls 0 ≠ .lease c := by
    have hcall : (calling.after overtaken).calls 0 = .outside := by decide +kernel
    intro c hunderway
    rw [hcall] at hunderway
    cases hunderway
  refine ⟨by decide +kernel, by decide +kernel, ?_⟩
  have hends := (lease_ends 3 (⟨(), ⟨0, 3⟩, 1, 0⟩ : Slot Unit Nat) (fun _ => true) []).2.2 0 rfl
    overtaken
  exact hends.resolve_left fun ⟨c, hunderway, _⟩ => hout c hunderway

end SharedContainer

end LiveConfig
