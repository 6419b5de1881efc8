import LiveConfig.Proofs.Fleet.Again
/-!
Ticks with their updaters in another order.

Where a callback looks at nothing but the settings and its own container, what running an updater
comes to is settled by its container. So two updaters that stand next to each other may change
places, and a container fares as it would without the others.
-/

set_option autoImplicit false

namespace LiveConfig.Fleet

variable {V : Vocabulary} {R C : V.Updater → Type} {ω : Type}

/-- What running an updater came to: how it ended, and its events. -/
structure Turn (V : Vocabulary) where
  updater : V.Updater
  ended : Except Panic Bool
  events : List (FleetEvent V)

namespace Turn

def failed (t : Turn V) : Bool :=
  match t.ended with
  | .ok failed => failed
  | .error _ => false

def tally : List (Turn V) → Except Panic Nat
  | [] => .ok 0
  | t :: rest =>
      match t.ended with
      | .error p => .error p
      | .ok failed => (tally rest).map (· + failed.toNat)

theorem tally_cons_eq_ok {t : Turn V} {rest : List (Turn V)} {n : Nat} :
    tally (t :: rest) = .ok n ↔
      ∃ failed m, t.ended = .ok failed ∧ tally rest = .ok m ∧ n = m + failed.toNat := by
  cases hended : t.ended with
  | error p => simp [tally, hended]
  | ok failed =>
      cases hrest : tally rest with
      | error p => simp [tally, hended, hrest, Except.map]
      | ok m => simp [tally, hended, hrest, Except.map, eq_comm]

theorem tally_eq_ok {turns : List (Turn V)} {n : Nat} : tally turns = .ok n ↔
    (∀ t ∈ turns, ∃ failed, t.ended = .ok failed) ∧ n = turns.countP failed := by
  induction turns generalizing n with
  | nil => simp [tally, eq_comm]
  | cons t rest ih =>
      have hcount : ∀ b, t.ended = .ok b → t.failed.toNat = b.toNat := by
        intro b hb
        simp only [failed, hb]
      rw [tally_cons_eq_ok, List.forall_mem_cons, List.countP_cons]
      constructor
      · rintro ⟨b, m, hended, hrest, rfl⟩
        obtain ⟨hall, rfl⟩ := ih.mp hrest
        refine ⟨⟨⟨b, hended⟩, hall⟩, ?_⟩
        have hb := hcount b hended
        cases hfailed : t.failed <;> simp_all
      · rintro ⟨⟨⟨b, hended⟩, hall⟩, rfl⟩
        refine ⟨b, _, hended, ih.mpr ⟨hall, rfl⟩, ?_⟩
        have hb := hcount b hended
        cases hfailed : t.failed <;> simp_all

theorem tally_perm {turns turns' : List (Turn V)} (h : turns.Perm turns') {n : Nat}
    (hn : tally turns = .ok n) : tally turns' = .ok n := by
  obtain ⟨hall, hcount⟩ := tally_eq_ok.mp hn
  exact tally_eq_ok.mpr ⟨fun t ht => hall t (h.mem_iff.mpr ht), hcount.trans (h.countP_eq _)⟩

theorem tally_filter {turns : List (Turn V)} {n : Nat} (hn : tally turns = .ok n)
    (keep : Turn V → Bool) :
    tally (turns.filter keep) = .ok ((turns.filter keep).countP failed) := by
  obtain ⟨hall, -⟩ := tally_eq_ok.mp hn
  exact tally_eq_ok.mpr ⟨fun t ht => hall t (List.mem_filter.mp ht).1, rfl⟩

/-- How a tick ends, of which the hooks before and after the updaters end so. -/
def conclude (before after : Except Panic Unit) (turns : List (Turn V)) : Except Panic Nat :=
  match before, tally turns with
  | .error p, _ | .ok _, .error p => .error p
  | .ok _, .ok n => after.map fun _ => n

theorem conclude_eq_ok {before after : Except Panic Unit} {turns : List (Turn V)} {n : Nat} :
    conclude before after turns = .ok n ↔
      before = .ok () ∧ after = .ok () ∧ tally turns = .ok n := by
  cases before with
  | error p => simp [conclude]
  | ok _ =>
      cases htally : tally turns with
      | error p => simp [conclude, htally]
      | ok m => cases after <;> simp [conclude, htally, Except.map]

end Turn

variable [DecidableEq V.Updater] (f : Fleet V R C ω) (v : World V ω) (s : Store V)
  (reported : StoreError → Except Panic Unit)

/-- What running an updater with this container comes to in the world `v`, where reports end as
`reported`. -/
def turn (u : V.Updater) (c : Container (R u) (C u)) : Turn V where
  updater := u
  ended :=
    match (f.step u c v).result with
    | .ok _ => .ok false
    | .panic m => .error ⟨m⟩
    | .error e =>
        (reported (.update (f.step u c v).container.name e.message)).map fun _ => true
  events := .updated u (f.step u c v).result (f.step u c v).closings ::
    match (f.step u c v).result with
    | .ok _ | .panic _ => []
    | .error e => [.report s (.update (f.step u c v).container.name e.message)]

def stepped (u : V.Updater) (containers : ∀ u, Container (R u) (C u)) :
    ∀ u, Container (R u) (C u) :=
  Function.update containers u (f.step u (containers u) v).container

/-- The turns of updaters that run one after the other. -/
def turns (containers : ∀ u, Container (R u) (C u)) : List V.Updater → List (Turn V)
  | [] => []
  | u :: rest =>
      turn f v s reported u (containers u) :: turns (stepped f v u containers) rest

/-- The containers after updaters ran one after the other. -/
def allStepped (containers : ∀ u, Container (R u) (C u)) (updaters : List V.Updater) :
    ∀ u, Container (R u) (C u) :=
  updaters.foldl (fun containers u => stepped f v u containers) containers

section

variable {f v s reported} {containers containers' : ∀ u, Container (R u) (C u)}
  {updaters updaters' : List V.Updater} {u u' : V.Updater}

theorem stepped_self :
    stepped f v u containers u = (f.step u (containers u) v).container :=
  Function.update_self ..

theorem stepped_of_ne (h : u ≠ u') : stepped f v u' containers u = containers u :=
  Function.update_of_ne h ..

theorem stepped_comm (h : u ≠ u') :
    stepped f v u (stepped f v u' containers) = stepped f v u' (stepped f v u containers) := by
  have hfirst := @stepped_of_ne _ _ _ _ _ f v containers u u' h
  have hsecond := @stepped_of_ne _ _ _ _ _ f v containers u' u h.symm
  rw [stepped, hfirst, stepped, Function.update_comm h.symm, stepped, hsecond, stepped]

theorem turns_perm (h : updaters.Perm updaters') :
    (turns f v s reported containers updaters).Perm (turns f v s reported containers updaters') ∧
      allStepped f v containers updaters = allStepped f v containers updaters' := by
  induction h generalizing containers with
  | nil => exact ⟨.refl _, rfl⟩
  | cons u _ ih =>
      obtain ⟨hturns, hleft⟩ := @ih (stepped f v u containers)
      exact ⟨hturns.cons _, hleft⟩
  | swap u u' rest =>
      by_cases hne : u = u'
      · subst hne
        exact ⟨.refl _, rfl⟩
      · have hfirst := @stepped_of_ne _ _ _ _ _ f v containers u u' hne
        have hsecond := @stepped_of_ne _ _ _ _ _ f v containers u' u (Ne.symm hne)
        have hcomm := @stepped_comm _ _ _ _ _ f v containers u u' hne
        constructor
        · simp only [turns, hfirst, hsecond, hcomm]
          exact .swap ..
        · simp only [allStepped, List.foldl_cons, hcomm]
  | trans _ _ ih ih' =>
      obtain ⟨hturns, hleft⟩ := @ih containers
      obtain ⟨hturns', hleft'⟩ := @ih' containers
      exact ⟨hturns.trans hturns', hleft.trans hleft'⟩

/-- A container fares as it would without the others. -/
theorem turns_filter (u : V.Updater) (h : containers u = containers' u)
    (updaters : List V.Updater) :
    (turns f v s reported containers updaters).filter (·.updater = u) =
        turns f v s reported containers' (updaters.filter (· = u)) ∧
      allStepped f v containers updaters u =
        allStepped f v containers' (updaters.filter (· = u)) u := by
  induction updaters generalizing containers containers' with
  | nil => exact ⟨rfl, h⟩
  | cons u' rest ih =>
      by_cases hu : u' = u
      · subst hu
        have hnext : stepped f v u' containers u' = stepped f v u' containers' u' := by
          rw [stepped_self, stepped_self, h]
        obtain ⟨hturns, hleft⟩ := ih hnext
        rw [List.filter_cons_of_pos (by simp)]
        refine ⟨?_, hleft⟩
        rw [turns, List.filter_cons_of_pos (by simp [turn]), hturns, turns, h]
      · have hnext : stepped f v u' containers u = containers' u := by
          rw [stepped_of_ne (Ne.symm hu), h]
        obtain ⟨hturns, hleft⟩ := ih hnext
        rw [List.filter_cons_of_neg (by simpa using hu)]
        refine ⟨?_, hleft⟩
        refine Eq.trans (List.filter_cons_of_neg ?_) hturns
        rw [decide_eq_true_eq]
        exact hu

end

/-! ### Runs -/

section

variable {f v s reported} {P : World V ω → Prop} {w : World V (Outside V R C ω)}

/-- In the worlds of `P`, reports end as `reported`. -/
def Reports (f : Fleet V R C ω) (P : World V ω → Prop) (s : Store V)
    (reported : StoreError → Except Panic Unit) : Prop :=
  ∀ e w, P w.inner → ∃ v, P v ∧
    f.host.report e w = (reported e, (w.moved v).tell (.report s e))

theorem Orderly.reports (h : f.Orderly P s) : ∃ reported, Reports f P s reported :=
  Classical.axiomOfChoice h.report

theorem Orderly.runUpdater_turn (h : f.Orderly P s) (hreports : Reports f P s reported)
    {u : V.Updater} (hlocal : (f.callbacks u).Local P) (hv : P v) (hw : P w.inner) :
    ∃ w₁, f.host.runUpdater u w = ((turn f v s reported u (w.outside.containers u)).ended, w₁) ∧
      P w₁.inner ∧ w₁.outside.containers = stepped f v u w.outside.containers ∧
      w₁.outside.events =
        w.outside.events ++ (turn f v s reported u (w.outside.containers u)).events := by
  have hworld := (hlocal.update (w.outside.containers u) hw hw).1
  have hsame := (hlocal.update (w.outside.containers u) hv hw).2
  change (f.step u (w.outside.containers u) w.inner).outcome =
    (f.step u (w.outside.containers u) v).outcome at hsame
  simp only [Step.outcome, Prod.mk.injEq] at hsame
  obtain ⟨hresult, hcontainer, hclosings⟩ := hsame
  have hinner : P (f.updated u w).inner := h.foldl_note _ hworld
  have hcontainers : (f.updated u w).outside.containers = stepped f v u w.outside.containers := by
    rw [containers_updated, hcontainer, stepped]
  have hevents := f.events_updated u w
  rw [hresult, hclosings] at hevents
  rw [runUpdater_eq, hresult, hcontainer]
  simp only [turn]
  cases hended : (f.step u (w.outside.containers u) v).result with
  | ok d =>
      rw [hended] at hevents
      exact ⟨_, rfl, hinner, hcontainers, hevents⟩
  | panic m =>
      rw [hended] at hevents
      exact ⟨_, rfl, hinner, hcontainers, hevents⟩
  | error e =>
      let told := StoreError.update (f.step u (w.outside.containers u) v).container.name e.message
      obtain ⟨v₁, hv₁, hreport⟩ := hreports told (f.updated u w) hinner
      rw [hended] at hevents
      refine ⟨((f.updated u w).moved v₁).tell (.report s told), ?_, hv₁, hcontainers, ?_⟩
      · simp only [told] at hreport
        simp only [hreport, told]
      · change (f.updated u w).outside.events ++ [.report s told] = _
        rw [hevents, List.append_assoc]
        rfl

theorem Orderly.runUpdaters_turns (h : f.Orderly P s) (hreports : Reports f P s reported)
    {updaters : List V.Updater} (hlocal : ∀ u ∈ updaters, (f.callbacks u).Local P) (hv : P v)
    (hw : P w.inner) :
    (f.host.runUpdaters updaters w).1 =
        Turn.tally (turns f v s reported w.outside.containers updaters) ∧
      ∀ n, (f.host.runUpdaters updaters w).1 = .ok n →
        P (f.host.runUpdaters updaters w).2.inner ∧
        (f.host.runUpdaters updaters w).2.outside.containers =
          allStepped f v w.outside.containers updaters ∧
        (f.host.runUpdaters updaters w).2.outside.events = w.outside.events ++
          (turns f v s reported w.outside.containers updaters).flatMap Turn.events := by
  induction updaters generalizing w with
  | nil => exact ⟨rfl, fun _ _ => ⟨hw, rfl, (List.append_nil _).symm⟩⟩
  | cons u rest ih =>
      obtain ⟨w₁, hrun, hw₁, hcontainers, hevents⟩ :=
        h.runUpdater_turn hreports (hlocal u List.mem_cons_self) hv hw
      obtain ⟨hresult, hleft⟩ := ih (fun u' hu' => hlocal u' (List.mem_cons_of_mem u hu')) hw₁
      rw [hcontainers] at hresult hleft
      cases hended : (turn f v s reported u (w.outside.containers u)).ended with
      | error p =>
          simp only [Host.runUpdaters, hrun, turns, Turn.tally, hended]
          refine ⟨trivial, fun n hn => ?_⟩
          cases hn
      | ok failed =>
          simp only [Host.runUpdaters, hrun, turns, Turn.tally, hended, ← hresult]
          refine ⟨trivial, fun n hn => ?_⟩
          cases hcount : (f.host.runUpdaters rest w₁).1 with
          | error p =>
              rw [hcount] at hn
              cases hn
          | ok m =>
              obtain ⟨hinner, hall, hlater⟩ := hleft m hcount
              refine ⟨hinner, hall, ?_⟩
              rw [hlater, hevents, List.flatMap_cons, List.append_assoc]

end

/-! ### Events -/

/-- The events of a turn are about its own container, and show whether it failed. -/
structure Turn.Fair (t : Turn V) : Prop where
  own : ∀ u, u ≠ t.updater → t.events.filter (FleetEvent.concerns u) = []
  shown : ∀ failed, t.ended = .ok failed →
    (t.events.filter (FleetEvent.concerns t.updater)).countP FleetEvent.failed = failed.toNat

section

variable {f v s reported} {containers : ∀ u, Container (R u) (C u)} {u : V.Updater}

theorem turn_fair (c : Container (R u) (C u)) : (turn f v s reported u c).Fair where
  own := by
    intro u' hu
    have hother : decide (u = u') = false := decide_eq_false hu.symm
    simp only [turn]
    cases (f.step u c v).result <;> simp [hother]
  shown := by
    intro failed hended
    simp only [turn] at hended ⊢
    cases hresult : (f.step u c v).result with
    | ok d =>
        rw [hresult] at hended
        obtain rfl := Except.ok.inj hended
        simp [FleetEvent.failed]
    | panic m =>
        rw [hresult] at hended
        cases hended
    | error e =>
        rw [hresult] at hended
        simp only at hended
        cases hreport : reported (.update (f.step u c v).container.name e.message) with
        | error p =>
            rw [hreport] at hended
            cases hended
        | ok _ =>
            rw [hreport] at hended
            obtain rfl := Except.ok.inj hended
            simp [FleetEvent.failed]

theorem turns_fair (updaters : List V.Updater) :
    ∀ t ∈ turns f v s reported containers updaters, t.Fair := by
  induction updaters generalizing containers with
  | nil => nofun
  | cons u rest ih =>
      intro t ht
      rcases List.mem_cons.mp ht with rfl | ht
      · exact turn_fair _
      · exact ih t ht

theorem filter_concerns {l : List (Turn V)} (h : ∀ t ∈ l, t.Fair) (u : V.Updater) :
    (l.flatMap Turn.events).filter (FleetEvent.concerns u) =
      ((l.filter (·.updater = u)).flatMap Turn.events).filter (FleetEvent.concerns u) := by
  induction l with
  | nil => rfl
  | cons t rest ih =>
      have hrest := ih fun t' ht' => h t' (List.mem_cons_of_mem t ht')
      rw [List.flatMap_cons, List.filter_append, hrest]
      by_cases hu : t.updater = u
      · rw [List.filter_cons_of_pos (by simpa using hu), List.flatMap_cons, List.filter_append]
      · rw [List.filter_cons_of_neg (by simpa using hu),
          (h t List.mem_cons_self).own u (Ne.symm hu), List.nil_append]

theorem countP_concerns {l : List (Turn V)} (h : ∀ t ∈ l, t.Fair) (hu : ∀ t ∈ l, t.updater = u)
    {n : Nat} (hn : Turn.tally l = .ok n) :
    ((l.flatMap Turn.events).filter (FleetEvent.concerns u)).countP FleetEvent.failed = n := by
  induction l generalizing n with
  | nil => exact Except.ok.inj hn
  | cons t rest ih =>
      obtain ⟨failed, m, hended, hrest, rfl⟩ := Turn.tally_cons_eq_ok.mp hn
      have hlater := ih (fun t' ht' => h t' (List.mem_cons_of_mem t ht'))
        (fun t' ht' => hu t' (List.mem_cons_of_mem t ht')) hrest
      have hfirst := (h t List.mem_cons_self).shown failed hended
      rw [hu t List.mem_cons_self] at hfirst
      rw [List.flatMap_cons, List.filter_append, List.countP_append, hfirst, hlater]
      omega

end

/-! ### Ticks -/

section

variable {f v s reported} {P : World V ω → Prop}

theorem Orderly.runRegistered_turns (h : f.Orderly P s) (hreports : Reports f P s reported)
    (hv : P v) : ∃ before after, ∀ (w : World V (Outside V R C ω)) (updaters : List V.Updater),
      P w.inner → (∀ u ∈ updaters, (f.callbacks u).Local P) →
        (f.host.runRegistered { s.registry with updaters } w).1 =
          Turn.conclude before after (turns f v s reported w.outside.containers updaters) ∧
        ∀ n, (f.host.runRegistered { s.registry with updaters } w).1 = .ok n →
          (f.host.runRegistered { s.registry with updaters } w).2.outside.containers =
            allStepped f v w.outside.containers updaters ∧
          (f.host.runRegistered { s.registry with updaters } w).2.outside.events =
            w.outside.events ++
              (turns f v s reported w.outside.containers updaters).flatMap Turn.events := by
  obtain ⟨before, hbefore⟩ := h.runHooks fun k hk => Or.inl hk
  obtain ⟨after, hafter⟩ := h.runHooks fun k hk => Or.inr hk
  refine ⟨before, after, fun w updaters hw hlocal => ?_⟩
  obtain ⟨v₁, hv₁, hrun⟩ := hbefore w hw
  cases before with
  | error p =>
      simp only [Host.runRegistered, hrun]
      refine ⟨rfl, fun n hn => ?_⟩
      cases hn
  | ok _ =>
      obtain ⟨hresult, hleft⟩ := h.runUpdaters_turns hreports hlocal hv (w := w.moved v₁) hv₁
      change _ = Turn.tally (turns f v s reported w.outside.containers updaters) at hresult
      rcases hmiddle : f.host.runUpdaters updaters (w.moved v₁) with ⟨count, w₂⟩
      rw [hmiddle] at hresult hleft
      simp only [Host.runRegistered, hrun, hmiddle, Turn.conclude, ← hresult]
      cases count with
      | error p =>
          refine ⟨rfl, fun n hn => ?_⟩
          cases hn
      | ok n =>
          obtain ⟨hw₂, hcontainers, hevents⟩ := hleft n rfl
          obtain ⟨v₃, hv₃, hfinish⟩ := hafter w₂ hw₂
          simp only [hfinish]
          exact ⟨trivial, fun _ _ => ⟨hcontainers, hevents⟩⟩

theorem tick_enlist {w : World V (Outside V R C ω)} (hload : (f.host.load w).1 = .ok ())
    (updaters : List V.Updater) : f.tick (w.enlist updaters) =
      f.host.runRegistered { (f.host.load w).2.store.registry with updaters }
        ((f.host.load w).2.enlist updaters).hushed := by
  have hfresh : (f.host.fresh (w.enlist updaters).hushed).1 = (f.host.fresh w).1 :=
    f.pure.fresh_eq rfl rfl rfl
  simp only [tick, Host.reload, f.pure.load_eq, hfresh] at hload ⊢
  cases hm : (f.host.fresh w).1 with
  | ok m => rfl
  | error e =>
      rw [hm] at hload
      cases hload
  | panic m =>
      rw [hm] at hload
      cases hload

/-- Ticks after a load come to the turns of their updaters. -/
theorem Orderly.ticks {w : World V (Outside V R C ω)} (h : f.Orderly P (f.host.load w).2.store)
    (hload : (f.host.load w).1 = .ok ())
    (hstart : ∀ updaters, P ((f.host.load w).2.enlist updaters).inner) {updaters : List V.Updater}
    (hlocal : ∀ u ∈ updaters, (f.callbacks u).Local P) : ∃ before after v reported,
      ∀ l : List V.Updater, (∀ u ∈ l, u ∈ updaters) →
        (f.tick (w.enlist l)).1 = Turn.conclude before after
          (turns f v (f.host.load w).2.store reported w.outside.containers l) ∧
        ∀ n, (f.tick (w.enlist l)).1 = .ok n →
          (f.tick (w.enlist l)).2.outside.containers = allStepped f v w.outside.containers l ∧
          (f.tick (w.enlist l)).2.outside.events =
            (turns f v (f.host.load w).2.store reported w.outside.containers l).flatMap
              Turn.events := by
  obtain ⟨reported, hreports⟩ := h.reports
  obtain ⟨before, after, hrun⟩ := h.runRegistered_turns hreports (hstart updaters)
  have hcontainers : (f.host.load w).2.outside.containers = w.outside.containers :=
    congrArg Outside.containers (f.pure.outside_load w)
  refine ⟨before, after, ((f.host.load w).2.enlist updaters).inner, reported, fun l hl => ?_⟩
  have htick := hrun ((f.host.load w).2.enlist l).hushed l (hstart l) fun u hu => hlocal u (hl u hu)
  rw [← tick_enlist hload l] at htick
  rw [← hcontainers]
  exact htick

end

/-- In whichever order updaters are registered, a tick that goes through leaves the same containers,
tells the same and counts the same, and every container takes the same steps. It takes them and
ends as it does if no other container is registered. Loggers and clients that decode their configs
from the store are containers of the kind that is asked for. -/
theorem tick_perm (f : Fleet V R C ω) (w : World V (Outside V R C ω)) (P : World V ω → Prop)
    (hload : (f.host.load w).1 = .ok ())
    (hstart : ∀ updaters, P ((f.host.load w).2.enlist updaters).inner)
    (horderly : f.Orderly P (f.host.load w).2.store) {updaters updaters' : List V.Updater}
    (hlocal : ∀ u ∈ updaters, (f.callbacks u).Local P) (hperm : updaters.Perm updaters') {n : Nat}
    (hn : (f.tick (w.enlist updaters)).1 = .ok n) :
    ((f.tick (w.enlist updaters')).1 = .ok n ∧
      (f.tick (w.enlist updaters')).2.outside.containers =
        (f.tick (w.enlist updaters)).2.outside.containers ∧
      ((f.tick (w.enlist updaters')).2.outside.events.filter FleetEvent.isReport).Perm
        ((f.tick (w.enlist updaters)).2.outside.events.filter FleetEvent.isReport) ∧
      ∀ u, (f.tick (w.enlist updaters')).2.outside.events.filter (FleetEvent.concerns u) =
        (f.tick (w.enlist updaters)).2.outside.events.filter (FleetEvent.concerns u)) ∧
    (∀ u, (f.tick (w.enlist (updaters.filter (· = u)))).2.outside.containers u =
        (f.tick (w.enlist updaters)).2.outside.containers u ∧
      (f.tick (w.enlist (updaters.filter (· = u)))).2.outside.events.filter
          (FleetEvent.concerns u) =
        (f.tick (w.enlist updaters)).2.outside.events.filter (FleetEvent.concerns u) ∧
      (f.tick (w.enlist (updaters.filter (· = u)))).1 =
        .ok (((f.tick (w.enlist updaters)).2.outside.events.filter
          (FleetEvent.concerns u)).countP FleetEvent.failed)) ∧
    (SameSettings P → ∀ keyPrefix,
      (Http.callbacks (World.fetch (Http.Config.schema keyPrefix) {})).Local P) ∧
    (SameSettings P → ∀ (part : Focus (World V ω) Logger.Outside) (keyPrefix : String),
      (∀ v, P v → ∀ config, v.store.decoded (Logger.Config.schema keyPrefix) {} = .ok config →
        Logger.OpensAlike part P id config.output) →
      (Logger.callbacks part (World.fetch (Logger.Config.schema keyPrefix) {})).Local P) := by
  refine ⟨?_, ?_, Http.isLocal, fun hsettings part keyPrefix => Logger.isLocal hsettings⟩
  · obtain ⟨before, after, v, reported, hticks⟩ := horderly.ticks hload hstart hlocal
    obtain ⟨hresult, hleft⟩ := hticks updaters fun _ hu => hu
    obtain ⟨hresult', hleft'⟩ := hticks updaters' fun u hu => hperm.mem_iff.mpr hu
    obtain ⟨hturns, hstepped⟩ := @turns_perm _ _ _ _ _ f v (f.host.load w).2.store reported
      w.outside.containers _ _ hperm
    obtain ⟨hbefore, hafter, htally⟩ := Turn.conclude_eq_ok.mp (hresult.symm.trans hn)
    have hn' : (f.tick (w.enlist updaters')).1 = .ok n := hresult'.trans
      (Turn.conclude_eq_ok.mpr ⟨hbefore, hafter, Turn.tally_perm hturns htally⟩)
    obtain ⟨hcontainers, hevents⟩ := hleft n hn
    obtain ⟨hcontainers', hevents'⟩ := hleft' n hn'
    refine ⟨hn', ?_, ?_, fun u => ?_⟩
    · rw [hcontainers', hcontainers, hstepped]
    · rw [hevents', hevents]
      exact (hturns.symm.flatMap_right _).filter _
    · have hsame : updaters'.filter (· = u) = updaters.filter (· = u) := by
        rw [List.filter_eq, List.filter_eq, hperm.count_eq]
      rw [hevents', hevents, filter_concerns (turns_fair _), filter_concerns (turns_fair _),
        (turns_filter u rfl updaters').1, (turns_filter u rfl updaters).1, hsame]
  · intro u
    obtain ⟨before, after, v, reported, hticks⟩ := horderly.ticks hload hstart hlocal
    obtain ⟨hresult, hleft⟩ := hticks updaters fun _ hu => hu
    obtain ⟨hresult', hleft'⟩ := hticks (updaters.filter (· = u)) fun u' hu' =>
      (List.mem_filter.mp hu').1
    obtain ⟨hturns, hstepped⟩ := @turns_filter _ _ _ _ _ f v (f.host.load w).2.store reported
      w.outside.containers w.outside.containers u rfl updaters
    obtain ⟨hbefore, hafter, htally⟩ := Turn.conclude_eq_ok.mp (hresult.symm.trans hn)
    obtain ⟨hcontainers, hevents⟩ := hleft n hn
    have halone := Turn.tally_filter htally (·.updater = u)
    rw [hturns] at halone
    have hn' := hresult'.trans (Turn.conclude_eq_ok.mpr ⟨hbefore, hafter, halone⟩)
    obtain ⟨hcontainers', hevents'⟩ := hleft' _ hn'
    have hconcerns : (f.tick (w.enlist (updaters.filter (· = u)))).2.outside.events.filter
        (FleetEvent.concerns u) =
          (f.tick (w.enlist updaters)).2.outside.events.filter (FleetEvent.concerns u) := by
      rw [hevents', hevents, filter_concerns (turns_fair updaters), hturns]
    refine ⟨?_, hconcerns, ?_⟩
    · rw [hcontainers', hcontainers, hstepped]
    · have hown : ∀ t ∈ turns f v (f.host.load w).2.store reported w.outside.containers
          (updaters.filter (· = u)), t.updater = u := by
        intro t ht
        rw [← hturns] at ht
        exact of_decide_eq_true (List.mem_filter.mp ht).2
      rw [hn', ← hconcerns, hevents', countP_concerns (turns_fair _) hown halone]

namespace Crew

/-- The worlds with the loaded settings, whichever updaters are registered. -/
def Manned (v : World Crew Logger.Outside) : Prop := ∃ updaters, Loaded updaters v

theorem manned_sameSettings : SameSettings Manned := by
  rintro v v' ⟨_, hv⟩ ⟨_, hv'⟩
  rw [hv, hv']
  rfl

theorem manned_orderly (updaters : List Bool) :
    (fleet unruly).Orderly Manned (loaded updaters).store where
  store := by
    rintro v ⟨_, hv⟩
    rw [hv]
    exact ⟨rfl, rfl⟩
  hooks := nofun
  handlers := nofun
  notes := fun _ _ hv => hv

theorem isLocal (u : Bool) : ((fleet unruly).callbacks u).Local Manned := by
  cases u with
  | false => exact Http.isLocal manned_sameSettings "A"
  | true =>
      refine Logger.isLocal manned_sameSettings ?_
      rintro v ⟨_, hv⟩ config hconfig
      refine opensAlike (fun _ _ h => h) ?_ hconfig _
      rw [hv]
      rfl

end Crew

/-- The logger may run twice after the client, or not at all. -/
theorem tick_perm_crew :
    ((Crew.fleet Crew.unruly).tick (Crew.start [false, true, true])).1 = .ok 2 ∧
    (((Crew.fleet Crew.unruly).tick (Crew.start [false, true, true])).2.outside.containers
      false).generation = 2 ∧
    (((Crew.fleet Crew.unruly).tick (Crew.start [false])).2.outside.containers
      false).generation = 2 := by
  obtain ⟨hcount, hgeneration⟩ := Crew.tick_unruly
  have hload := Crew.load_start [true, false, true]
  have hstart : ∀ updaters, Crew.Manned (((Crew.fleet Crew.unruly).host.load
      (Crew.start [true, false, true])).2.enlist updaters).inner := by
    intro updaters
    rw [hload]
    exact ⟨updaters, rfl⟩
  have horderly : (Crew.fleet Crew.unruly).Orderly Crew.Manned
      ((Crew.fleet Crew.unruly).host.load (Crew.start [true, false, true])).2.store := by
    rw [hload]
    exact Crew.manned_orderly _
  have hperm : [true, false, true].Perm [false, true, true] := by decide
  obtain ⟨⟨hresult, hcontainers, -⟩, halone, -⟩ :=
    tick_perm (Crew.fleet Crew.unruly) (Crew.start [true, false, true]) Crew.Manned
      (by rw [hload]) hstart horderly (fun u _ => Crew.isLocal u) hperm hcount
  refine ⟨hresult, ?_, ?_⟩
  · have hclient := congrFun hcontainers false
    exact (congrArg Container.generation hclient).trans hgeneration
  · exact (congrArg Container.generation (halone false).1).trans hgeneration

end LiveConfig.Fleet
