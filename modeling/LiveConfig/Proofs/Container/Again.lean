import LiveConfig.Proofs.Container.Exits
/-!
Updates that are repeated.

Where callbacks always end in the same way, an update that did something leaves nothing to do, and
an update that failed fails again. So whatever the first update comes to, a second one has no
effect.
-/

set_option autoImplicit false

namespace LiveConfig

variable {R C σ α : Type}

/-- In the worlds of `P` the call ends with `a`, and stays in them. -/
def Always (P : σ → Prop) (call : σ → α × σ) (a : α) : Prop :=
  ∀ w, P w → (call w).1 = a ∧ P (call w).2

theorem Always.ran {P : σ → Prop} {call : σ → α × σ} {a : α} (h : Always P call a) {w : σ}
    (hw : P w) : ∃ w', call w = (a, w') ∧ P w' := by
  obtain ⟨ha, hw'⟩ := h w hw
  exact ⟨(call w).2, Prod.ext ha rfl, hw'⟩

theorem Always.eq {P : σ → Prop} {call : σ → α × σ} {a b : α} (h : Always P call a) {w w' : σ}
    (hw : P w) (hcall : call w = (b, w')) : b = a ∧ P w' := by
  obtain ⟨ha, hw'⟩ := h w hw
  rw [hcall] at ha hw'
  exact ⟨ha, hw'⟩

theorem CallFailure.outcome_of_map {β : Type} (f : CallFailure) {o : Outcome String α}
    {g : α → β} (h : o.map g = f.outcome.map g) : o = f.outcome := by
  cases f <;> cases o <;> simp_all [Outcome.map]

namespace Callbacks

/-- A config that a fetch may give in the worlds of `P`. -/
def Fetches (cb : Callbacks R C σ) (P : σ → Prop) (config : C) : Prop :=
  ∃ seen w, P w ∧ (cb.fetch seen w).1 = .ok config

/-- In the worlds of `P`, how a callback ends is settled by its arguments and not by what it sees
of the container; equal configs ask for nothing, and a reset that fails leaves its object. Which
object is made, and what a reset makes of one, may differ. -/
structure Steady (cb : Callbacks R C σ) (P : σ → Prop) : Prop where
  fetch : ∃ fetched, ∀ seen, Always P (cb.fetch seen) fetched
  compare : ∀ compare ∈ cb.compare, ∀ old new, cb.Fetches P new →
    ∃ decided, ∀ seen, Always P (compare seen old new) decided
  construct : ∀ new, cb.Fetches P new → ∃ ended : Outcome String Unit, ∀ seen w, P w →
    (cb.construct seen new w).1.map (fun _ => ()) = ended ∧ P (cb.construct seen new w).2
  reset : ∀ reset ∈ cb.reset, ∀ object old new, cb.Fetches P new →
    ∃ ended, ∀ seen w, P w →
      (reset seen object old new w).1 = ended ∧ P (reset seen object old new w).2.2
  close : ∀ object w, P w → P (cb.close object w).2.2
  spawn : ∀ object w, P w → P (cb.spawn object w).2
  idle : ∀ compare ∈ cb.compare, ∀ seen config w, P w → (compare seen config config w).1 = .ok .keep
  spares : ∀ reset ∈ cb.reset, ∀ seen object old new w, P w →
    (reset seen object old new w).1 ≠ .ok () → (reset seen object old new w).2.1 = object

end Callbacks

namespace Container

variable {cb : Callbacks R C σ} {P : σ → Prop} {c : Container R C} {w : σ}

/-- In the worlds of `P` an update ends with `result` and has no effect on the container. -/
def Calm (cb : Callbacks R C σ) (P : σ → Prop) (c : Container R C)
    (result : Outcome ContainerError Decision) : Prop :=
  ∀ w, P w → ∃ w', update cb c w = ⟨result, c, w', []⟩ ∧ P w'

/-- How an update ends after one that ended with `result`. -/
def again : Outcome ContainerError Decision → Outcome ContainerError Decision
  | .ok _ => .ok .keep
  | .error e => .error e
  | .panic m => .panic m

theorem eq_keep_of_again {result : Outcome ContainerError Decision} {d : Decision}
    (h : again result = .ok d) : d = .keep := by
  cases result with
  | ok d' => exact (Outcome.ok.inj h).symm
  | error e => exact absurd h nofun
  | panic m => exact absurd h nofun

end Container

namespace Callbacks.Steady

open Container

variable {cb : Callbacks R C σ} {P : σ → Prop} {c : Container R C} {w w₁ w₂ w₃ : σ}
  {compare : Comparer C σ} {reset : Resetter R C σ} {new old : C} {object : R}

theorem fetched (h : cb.Steady P) {seen : Option (View C)} {r : Outcome String C}
    (hfetch : cb.fetch seen w = (r, w₁)) (hw : P w) :
    P w₁ ∧ ∀ seen', Always P (cb.fetch seen') r := by
  obtain ⟨fetched, hfetched⟩ := h.fetch
  obtain ⟨rfl, hw₁⟩ := (hfetched seen).eq hw hfetch
  exact ⟨hw₁, hfetched⟩

theorem compared (h : cb.Steady P) (hcompare : cb.compare = some compare)
    (hnew : cb.Fetches P new) {seen : View C} {r : Outcome String Decision}
    (hcall : compare seen old new w = (r, w₁)) (hw : P w) :
    P w₁ ∧ ∀ seen', Always P (compare seen' old new) r := by
  obtain ⟨decided, hdecided⟩ := h.compare compare hcompare old new hnew
  obtain ⟨rfl, hw₁⟩ := (hdecided seen).eq hw hcall
  exact ⟨hw₁, hdecided⟩

theorem kept (h : cb.Steady P) (hcompare : cb.compare = some compare) (hnew : cb.Fetches P new)
    (seen : View C) : Always P (compare seen new new) (.ok .keep) := by
  intro w hw
  have hkeep := h.idle compare hcompare seen new w hw
  exact ⟨hkeep, (h.compared hcompare hnew (Prod.ext hkeep rfl) hw).1⟩

theorem calm_of_fetched (h : cb.Steady P) (hcompare : cb.compare = some compare)
    (hfetch : ∀ seen, Always P (cb.fetch seen) (.ok new)) (hnew : cb.Fetches P new)
    (hopen : c.isClosed = false) (hconfig : c.config = new) : Calm cb P c (.ok .keep) := by
  intro w hw
  obtain ⟨w₁, hfetched, hw₁⟩ := (hfetch (some c.view)).ran hw
  obtain ⟨w₂, hkept, hw₂⟩ := (h.kept hcompare hnew c.view).ran hw₁
  have hd : Decided cb c w new .keep w₂ := ⟨hopen, compare, w₁, hcompare, hfetched, hconfig ▸ hkept⟩
  exact ⟨w₂, (Exit.kept hd).eq_update.symm, hw₂⟩

theorem decided (h : cb.Steady P) {d : Decision} (hd : Decided cb c w new d w₂) (hw : P w) :
    P w₂ ∧ cb.Fetches P new ∧ ∀ w', P w' → ∃ w₂', Decided cb c w' new d w₂' ∧ P w₂' := by
  obtain ⟨hopen, compare, w₁, hcompare, hfetch, hcall⟩ := hd
  have hnew : cb.Fetches P new := ⟨some c.view, w, hw, congrArg Prod.fst hfetch⟩
  obtain ⟨hw₁, hfetched⟩ := h.fetched hfetch hw
  obtain ⟨hw₂, hcompared⟩ := h.compared hcompare hnew hcall hw₁
  refine ⟨hw₂, hnew, fun w' hw' => ?_⟩
  obtain ⟨w₁', hfetch', hw₁'⟩ := (hfetched (some c.view)).ran hw'
  obtain ⟨w₂', hcall', hw₂'⟩ := (hcompared c.view).ran hw₁'
  exact ⟨w₂', ⟨hopen, compare, w₁', hcompare, hfetch', hcall'⟩, hw₂'⟩

theorem calm_of_decided (h : cb.Steady P) {d : Decision} (hd : Decided cb c w new d w₂) (hw : P w)
    {c' : Container R C} (hopen : c'.isClosed = false) (hconfig : c'.config = new) :
    Calm cb P c' (.ok .keep) := by
  obtain ⟨-, compare, w₁, hcompare, hfetch, -⟩ := hd
  have hnew : cb.Fetches P new := ⟨some c.view, w, hw, congrArg Prod.fst hfetch⟩
  exact h.calm_of_fetched hcompare (h.fetched hfetch hw).2 hnew hopen hconfig

theorem resetFailed (h : cb.Steady P) (hreset : cb.reset = some reset) (hnew : cb.Fetches P new)
    {seen : View C} {object' : R} {f : CallFailure}
    (hcall : reset seen object old new w = (f.outcome, object', w₁)) (hw : P w) :
    P w₁ ∧ ∀ w', P w' → object' = object ∧
      ∃ w₁', reset seen object old new w' = (f.outcome, object', w₁') ∧ P w₁' := by
  obtain ⟨ended, hended⟩ := h.reset reset hreset object old new hnew
  have hfailed : f.outcome ≠ (.ok () : Outcome String Unit) := by cases f <;> nofun
  have hfirst := hended seen w hw
  have hspared := h.spares reset hreset seen object old new w hw
  rw [hcall] at hfirst hspared
  obtain ⟨rfl, hw₁⟩ := hfirst
  refine ⟨hw₁, fun w' hw' => ?_⟩
  obtain ⟨hended', hw₁'⟩ := hended seen w' hw'
  have hspared' := h.spares reset hreset seen object old new w' hw' (hended' ▸ hfailed)
  obtain rfl : object' = object := hspared hfailed
  exact ⟨rfl, (reset seen object' old new w').2.2, Prod.ext hended' (Prod.ext hspared' rfl), hw₁'⟩

theorem retired (h : cb.Steady P) (slot : Slot R C) (next : Container R C) (hw : P w) :
    P (retire cb slot next w).2.1 ∧ (retire cb slot next w).1.phase = next.phase ∧
      (retire cb slot next w).1.config = next.config := by
  have hspawned := h.spawn slot.object w hw
  have hkept : (next.keep slot).phase = next.phase ∧ (next.keep slot).config = next.config := by
    unfold keep
    split <;> exact ⟨rfl, rfl⟩
  have hretired := Container.retired cb slot next w
  generalize retire cb slot next w = s at hretired
  cases hretired with
  | stranded hspawn | waiting hspawn =>
      rw [hspawn] at hspawned
      exact ⟨hspawned, hkept⟩
  | closed hspawn =>
      rw [hspawn] at hspawned
      exact ⟨h.close slot.object _ hspawned, rfl, rfl⟩

/-- Whatever an update comes to, it has no effect in the container that it leaves: it fails again,
or has nothing to do. -/
theorem calm (h : cb.Steady P) (c : Container R C) (hw : P w) :
    P (update cb c w).world ∧
      Calm cb P (update cb c w).container (again (update cb c w).result) := by
  have hexit := exit_update cb c w
  generalize update cb c w = s at hexit
  cases hexit with
  | closed hclosed => exact ⟨hw, fun w' hw' => ⟨w', (Exit.closed hclosed).eq_update.symm, hw'⟩⟩
  | noCompare hopen hcompare =>
      exact ⟨hw, fun w' hw' => ⟨w', (Exit.noCompare hopen hcompare).eq_update.symm, hw'⟩⟩
  | @notFetched compare f w₁ hopen hcompare hfetch =>
      obtain ⟨hw₁, hfetched⟩ := h.fetched hfetch hw
      refine ⟨hw₁, fun w' hw' => ?_⟩
      obtain ⟨w₁', hfetch', hw₁'⟩ := (hfetched (some c.view)).ran hw'
      have hexit := (Exit.notFetched hopen hcompare hfetch').eq_update.symm
      cases f <;> exact ⟨w₁', hexit, hw₁'⟩
  | @notCompared compare new f w₁ w₂ hopen hcompare hfetch hcall =>
      have hnew : cb.Fetches P new := ⟨some c.view, w, hw, congrArg Prod.fst hfetch⟩
      obtain ⟨hw₁, hfetched⟩ := h.fetched hfetch hw
      obtain ⟨hw₂, hcompared⟩ := h.compared hcompare hnew hcall hw₁
      refine ⟨hw₂, fun w' hw' => ?_⟩
      obtain ⟨w₁', hfetch', hw₁'⟩ := (hfetched (some c.view)).ran hw'
      obtain ⟨w₂', hcall', hw₂'⟩ := (hcompared c.view).ran hw₁'
      have hexit := (Exit.notCompared hopen hcompare hfetch' hcall').eq_update.symm
      cases f <;> exact ⟨w₂', hexit, hw₂'⟩
  | kept hd =>
      obtain ⟨hw₂, -, hdecided⟩ := h.decided hd hw
      refine ⟨hw₂, fun w' hw' => ?_⟩
      obtain ⟨w₂', hd', hw₂'⟩ := hdecided w' hw'
      exact ⟨w₂', (Exit.kept hd').eq_update.symm, hw₂'⟩
  | noReset hd hr =>
      obtain ⟨hw₂, -, hdecided⟩ := h.decided hd hw
      refine ⟨hw₂, fun w' hw' => ?_⟩
      obtain ⟨w₂', hd', hw₂'⟩ := hdecided w' hw'
      exact ⟨w₂', (Exit.noReset hd' hr).eq_update.symm, hw₂'⟩
  | @notReset reset new f object w₂ w₃ hd hr hcall =>
      obtain ⟨hw₂, hnew, hdecided⟩ := h.decided hd hw
      obtain ⟨hw₃, hfailed⟩ := h.resetFailed hr hnew hcall hw₂
      refine ⟨hw₃, fun w' hw' => ?_⟩
      obtain ⟨w₂', hd', hw₂'⟩ := hdecided w' hw'
      obtain ⟨rfl, w₃', hcall', hw₃'⟩ := hfailed w₂' hw₂'
      have hexit := (Exit.notReset hd' hr hcall').eq_update.symm
      cases f <;> exact ⟨w₃', hexit, hw₃'⟩
  | @reset reset new object w₂ w₃ hd hr hcall =>
      obtain ⟨hw₂, hnew, -⟩ := h.decided hd hw
      obtain ⟨ended, hended⟩ := h.reset reset hr c.current.object c.config new hnew
      have hw₃ := (hended c.view w₂ hw₂).2
      rw [hcall] at hw₃
      exact ⟨hw₃, h.calm_of_decided hd hw hd.opened rfl⟩
  | @notConstructed new f w₂ w₃ hd hmake =>
      obtain ⟨hw₂, hnew, hdecided⟩ := h.decided hd hw
      obtain ⟨ended, hended⟩ := h.construct new hnew
      have hfirst := hended (some c.view) w₂ hw₂
      rw [hmake] at hfirst
      refine ⟨hfirst.2, fun w' hw' => ?_⟩
      obtain ⟨w₂', hd', hw₂'⟩ := hdecided w' hw'
      obtain ⟨hended', hw₃'⟩ := hended (some c.view) w₂' hw₂'
      have hmade := f.outcome_of_map (hended'.trans hfirst.1.symm)
      have hexit := (Exit.notConstructed hd' (Prod.ext hmade rfl)).eq_update.symm
      cases f <;> exact ⟨_, hexit, hw₃'⟩
  | @replaced new object w₂ w₃ hd hmake =>
      obtain ⟨hw₂, hnew, -⟩ := h.decided hd hw
      obtain ⟨ended, hended⟩ := h.construct new hnew
      have hw₃ := (hended (some c.view) w₂ hw₂).2
      rw [hmake] at hw₃
      obtain ⟨hworld, hphase, hconfig⟩ := h.retired c.current (c.supersede object new) hw₃
      have hopen : (retire cb c.current (c.supersede object new) w₃).1.isClosed = false := by
        rw [isClosed, hphase]
        exact hd.opened
      exact ⟨hworld, h.calm_of_decided hd hw hopen hconfig⟩

end Callbacks.Steady

end LiveConfig
