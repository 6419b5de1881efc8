import LiveConfig.Container.Follow
/-!
The ways in which an update of a container ends.

There is one way for each reason not to commit, and three more that commit nothing, a reset or a
replacement. Each lists the callbacks that ran, in order and with what they were given. So what an
update preserves is shown way by way, and the update itself is opened here only. A slot that was
replaced goes out of service in one of three ways.
-/

set_option autoImplicit false

namespace LiveConfig

variable {R C σ : Type}

/-- A callback that compares the config in force with a new one. -/
abbrev Comparer (C σ : Type) := View C → C → C → σ → Outcome String Decision × σ

/-- A callback that takes the difference between two configs in place. -/
abbrev Resetter (R C σ : Type) := View C → R → C → C → σ → Outcome String Unit × R × σ

/-- How a call fails: with an error, or with a panic. -/
inductive CallFailure where
  | error (reason : String)
  | panic (message : String)
deriving DecidableEq, Repr

namespace CallFailure

@[simp] def outcome {α : Type} : CallFailure → Outcome String α
  | error reason => .error reason
  | panic message => .panic message

/-- The end of an update whose callback failed; `wrap` names the callback. -/
@[simp] def surfaced (wrap : String → ContainerError) :
    CallFailure → Outcome ContainerError Decision
  | error reason => .error (wrap reason)
  | panic message => .panic message

end CallFailure

theorem Outcome.failed_or_ok {α : Type} (o : Outcome String α) :
    (∃ f : CallFailure, o = f.outcome) ∨ ∃ a, o = .ok a := by
  cases o with
  | ok a => exact .inr ⟨a, rfl⟩
  | error e => exact .inl ⟨.error e, rfl⟩
  | panic m => exact .inl ⟨.panic m, rfl⟩

namespace Container

def fresh (name : String) (object : R) (config : C) : Container R C :=
  ⟨name, ⟨object, ⟨0, config⟩, 1, 0⟩, [], .serving, 1, []⟩

theorem build_eq_ok_iff {name : String} {cb : Callbacks R C σ} {w w' : σ} {c : Container R C} :
    build name cb w = (.ok c, w') ↔ ∃ config object w₁, cb.fetch none w = (.ok config, w₁) ∧
      cb.construct none config w₁ = (.ok object, w') ∧ c = fresh name object config := by
  constructor
  · intro h
    rcases hfetch : cb.fetch none w with ⟨fetched, w₁⟩
    cases fetched with
    | error e => simp [build, hfetch] at h
    | panic m => simp [build, hfetch] at h
    | ok config =>
        rcases hmake : cb.construct none config w₁ with ⟨made, w₂⟩
        cases made with
        | error e => simp [build, hfetch, hmake] at h
        | panic m => simp [build, hfetch, hmake] at h
        | ok object =>
            simp only [build, hfetch, hmake, Prod.mk.injEq, Outcome.ok.injEq] at h
            obtain ⟨rfl, rfl⟩ := h
            exact ⟨config, object, w₁, rfl, hmake, rfl⟩
  · rintro ⟨config, object, w₁, hfetch, hmake, rfl⟩
    simp [build, hfetch, hmake, fresh]

theorem keep_idle {c : Container R C} {old : Slot R C} (h : old.leases = 0) : c.keep old = c :=
  if_pos h

theorem keep_leased {c : Container R C} {old : Slot R C} (h : old.leases ≠ 0) :
    c.keep old = { c with superseded := c.superseded ++ [old] } := if_neg h

/-- The ways in which a replaced slot goes out of service. -/
inductive Retired (cb : Callbacks R C σ) (old : Slot R C) (next : Container R C) (w : σ) :
    Container R C × σ × List Closing → Prop
  | stranded {e : String} {w₁ : σ} : cb.spawn old.object w = (.error e, w₁) →
      Retired cb old next w
        ((next.keep old).strand old.generation, w₁, [.stranded old.generation e])
  | closed {w₁ : σ} : cb.spawn old.object w = (.ok (), w₁) → old.leases = 0 →
      Retired cb old next w (next, (cb.close old.object w₁).2.2,
        [.closed old.generation true (cb.close old.object w₁).1])
  | waiting {w₁ : σ} : cb.spawn old.object w = (.ok (), w₁) → old.leases ≠ 0 →
      Retired cb old next w (next.keep old, w₁, [])

theorem retired (cb : Callbacks R C σ) (old : Slot R C) (next : Container R C) (w : σ) :
    Retired cb old next w (retire cb old next w) := by
  rcases hspawn : cb.spawn old.object w with ⟨spawned, w₁⟩
  cases spawned with
  | error e => simpa [retire, hspawn] using Retired.stranded hspawn
  | ok =>
      by_cases hidle : old.leases = 0
      · simpa [retire, hspawn, hidle] using Retired.closed hspawn hidle
      · simpa [retire, hspawn, hidle] using Retired.waiting hspawn hidle

theorem Retired.eq_retire {cb : Callbacks R C σ} {old : Slot R C} {next : Container R C} {w : σ}
    {s : Container R C × σ × List Closing} (h : Retired cb old next w s) :
    s = retire cb old next w := by
  cases h with
  | stranded hspawn => simp [retire, hspawn]
  | closed hspawn hidle => simp [retire, hspawn, hidle]
  | waiting hspawn hleased => simp [retire, hspawn, hleased]

/-- The config `new` was fetched by an open container and the comparison came to `d`. -/
structure Decided (cb : Callbacks R C σ) (c : Container R C) (w : σ) (new : C) (d : Decision)
    (w' : σ) : Prop where
  opened : c.isClosed = false
  ran : ∃ (compare : Comparer C σ) (w₁ : σ), cb.compare = some compare ∧
    cb.fetch (some c.view) w = (.ok new, w₁) ∧ compare c.view c.config new w₁ = (.ok d, w')

/-- The ways in which an update ends. -/
inductive Exit (cb : Callbacks R C σ) (c : Container R C) (w : σ) :
    Step R C σ (Outcome ContainerError Decision) → Prop
  | closed : c.isClosed = true → Exit cb c w ⟨.error .closed, c, w, []⟩
  | noCompare : c.isClosed = false → cb.compare = none →
      Exit cb c w ⟨.error (.missing .compare), c, w, []⟩
  | notFetched {compare : Comparer C σ} {f : CallFailure} {w₁ : σ} :
      c.isClosed = false → cb.compare = some compare →
      cb.fetch (some c.view) w = (f.outcome, w₁) →
      Exit cb c w ⟨f.surfaced .fetch, c, w₁, []⟩
  | notCompared {compare : Comparer C σ} {new : C} {f : CallFailure} {w₁ w₂ : σ} :
      c.isClosed = false → cb.compare = some compare →
      cb.fetch (some c.view) w = (.ok new, w₁) →
      compare c.view c.config new w₁ = (f.outcome, w₂) →
      Exit cb c w ⟨f.surfaced .compare, c, w₂, []⟩
  | kept {new : C} {w₂ : σ} :
      Decided cb c w new .keep w₂ → Exit cb c w ⟨.ok .keep, c, w₂, []⟩
  | noReset {new : C} {w₂ : σ} :
      Decided cb c w new .reset w₂ → cb.reset = none →
      Exit cb c w ⟨.error (.missing .reset), c, w₂, []⟩
  | notReset {reset : Resetter R C σ} {new : C} {f : CallFailure} {object : R} {w₂ w₃ : σ} :
      Decided cb c w new .reset w₂ → cb.reset = some reset →
      reset c.view c.current.object c.config new w₂ = (f.outcome, object, w₃) →
      Exit cb c w ⟨f.surfaced .reset, c.withObject object, w₃, []⟩
  | reset {reset : Resetter R C σ} {new : C} {object : R} {w₂ w₃ : σ} :
      Decided cb c w new .reset w₂ → cb.reset = some reset →
      reset c.view c.current.object c.config new w₂ = (.ok (), object, w₃) →
      Exit cb c w ⟨.ok .reset, (c.withObject object).install new, w₃, []⟩
  | notConstructed {new : C} {f : CallFailure} {w₂ w₃ : σ} :
      Decided cb c w new .replace w₂ →
      cb.construct (some c.view) new w₂ = (f.outcome, w₃) →
      Exit cb c w ⟨f.surfaced .construct, c, w₃, []⟩
  | replaced {new : C} {object : R} {w₂ w₃ : σ} :
      Decided cb c w new .replace w₂ →
      cb.construct (some c.view) new w₂ = (.ok object, w₃) →
      Exit cb c w
        ⟨.ok .replace, (retire cb c.current (c.supersede object new) w₃).1,
          (retire cb c.current (c.supersede object new) w₃).2.1,
          (retire cb c.current (c.supersede object new) w₃).2.2⟩

variable {cb : Callbacks R C σ} {c : Container R C} {w : σ}

private theorem exit_applyReset {new : C} {w₂ : σ} (h : Decided cb c w new .reset w₂) :
    Exit cb c w (applyReset cb c new w₂) := by
  cases hr : cb.reset with
  | none => simpa [applyReset, hr] using Exit.noReset h hr
  | some reset =>
      rcases hcall : reset c.view c.current.object c.config new w₂ with ⟨ended, object, w₃⟩
      rcases ended.failed_or_ok with ⟨f, rfl⟩ | ⟨_, rfl⟩
      · have hexit := Exit.notReset h hr hcall
        cases f <;> simpa [applyReset, hr, hcall] using hexit
      · simpa [applyReset, hr, hcall] using Exit.reset h hr hcall

private theorem exit_applyReplace {new : C} {w₂ : σ} (h : Decided cb c w new .replace w₂) :
    Exit cb c w (applyReplace cb c new w₂) := by
  rcases hcall : cb.construct (some c.view) new w₂ with ⟨ended, w₃⟩
  rcases ended.failed_or_ok with ⟨f, rfl⟩ | ⟨object, rfl⟩
  · have hexit := Exit.notConstructed h hcall
    cases f <;> simpa [applyReplace, hcall] using hexit
  · simpa [applyReplace, hcall] using Exit.replaced h hcall

/-- Every update ends in one of the ways. -/
theorem exit_update (cb : Callbacks R C σ) (c : Container R C) (w : σ) :
    Exit cb c w (update cb c w) := by
  cases hclosed : c.isClosed with
  | true => simpa [update, hclosed] using Exit.closed hclosed
  | false =>
      cases hcompare : cb.compare with
      | none => simpa [update, hclosed, hcompare] using Exit.noCompare hclosed hcompare
      | some compare =>
          rcases hfetch : cb.fetch (some c.view) w with ⟨fetched, w₁⟩
          rcases fetched.failed_or_ok with ⟨f, rfl⟩ | ⟨new, rfl⟩
          · have hexit := Exit.notFetched hclosed hcompare hfetch
            cases f <;> simpa [update, hclosed, hcompare, hfetch] using hexit
          rcases hcall : compare c.view c.config new w₁ with ⟨decided, w₂⟩
          rcases decided.failed_or_ok with ⟨f, rfl⟩ | ⟨d, rfl⟩
          · have hexit := Exit.notCompared hclosed hcompare hfetch hcall
            cases f <;> simpa [update, hclosed, hcompare, hfetch, hcall] using hexit
          have hd : Decided cb c w new d w₂ := ⟨hclosed, compare, w₁, hcompare, hfetch, hcall⟩
          cases d with
          | keep => simpa [update, hclosed, hcompare, hfetch, hcall] using Exit.kept hd
          | reset => simpa [update, hclosed, hcompare, hfetch, hcall] using exit_applyReset hd
          | replace => simpa [update, hclosed, hcompare, hfetch, hcall] using exit_applyReplace hd

/-- The ways exclude each other: what an update leaves is the end of the only way that applies. -/
theorem Exit.eq_update {s : Step R C σ (Outcome ContainerError Decision)} (h : Exit cb c w s) :
    s = update cb c w := by
  cases h with
  | closed hclosed => simp [update, hclosed]
  | noCompare hopen hcompare => simp [update, hopen, hcompare]
  | @notFetched _ f _ hopen hcompare hfetch => cases f <;> simp [update, hopen, hcompare, hfetch]
  | @notCompared _ _ f _ _ hopen hcompare hfetch hcall =>
      cases f <;> simp [update, hopen, hcompare, hfetch, hcall]
  | kept hd =>
      obtain ⟨hopen, compare, w₁, hcompare, hfetch, hcall⟩ := hd
      simp [update, hopen, hcompare, hfetch, hcall]
  | noReset hd hr =>
      obtain ⟨hopen, compare, w₁, hcompare, hfetch, hcall⟩ := hd
      simp [update, hopen, hcompare, hfetch, hcall, applyReset, hr]
  | @notReset _ _ f _ _ _ hd hr hreset =>
      obtain ⟨hopen, compare, w₁, hcompare, hfetch, hcall⟩ := hd
      cases f <;> simp [update, hopen, hcompare, hfetch, hcall, applyReset, hr, hreset]
  | reset hd hr hreset =>
      obtain ⟨hopen, compare, w₁, hcompare, hfetch, hcall⟩ := hd
      simp [update, hopen, hcompare, hfetch, hcall, applyReset, hr, hreset]
  | @notConstructed _ f _ _ hd hmake =>
      obtain ⟨hopen, compare, w₁, hcompare, hfetch, hcall⟩ := hd
      cases f <;> simp [update, hopen, hcompare, hfetch, hcall, applyReplace, hmake]
  | replaced hd hmake =>
      obtain ⟨hopen, compare, w₁, hcompare, hfetch, hcall⟩ := hd
      simp [update, hopen, hcompare, hfetch, hcall, applyReplace, hmake]

end Container

/-- The callbacks keep what holds of the world. -/
structure Callbacks.Keeps (cb : Callbacks R C σ) (P : σ → Prop) : Prop where
  fetch : ∀ seen w, P w → P (cb.fetch seen w).2
  compare : ∀ compare ∈ cb.compare, ∀ seen old new w, P w → P (compare seen old new w).2
  construct : ∀ seen config w, P w → P (cb.construct seen config w).2
  reset : ∀ reset ∈ cb.reset, ∀ seen object old new w, P w → P (reset seen object old new w).2.2
  close : ∀ object w, P w → P (cb.close object w).2.2
  spawn : ∀ object w, P w → P (cb.spawn object w).2

namespace Container

variable {cb : Callbacks R C σ} {P : σ → Prop}

theorem Decided.keeps (h : cb.Keeps P) {c : Container R C} {w w' : σ} {new : C} {d : Decision}
    (hd : Decided cb c w new d w') (hw : P w) : P w' := by
  obtain ⟨-, compare, w₁, hcompare, hfetch, hcall⟩ := hd
  have hfetched := h.fetch (some c.view) w hw
  rw [hfetch] at hfetched
  have hcompared := h.compare compare hcompare c.view c.config new w₁ hfetched
  rw [hcall] at hcompared
  exact hcompared

theorem retire_keeps (h : cb.Keeps P) (old : Slot R C) (next : Container R C) {w : σ} (hw : P w) :
    P (retire cb old next w).2.1 := by
  have hspawned := h.spawn old.object w hw
  have hretired := retired cb old next w
  generalize retire cb old next w = s at hretired
  cases hretired with
  | stranded hspawn | waiting hspawn => rwa [hspawn] at hspawned
  | closed hspawn =>
      rw [hspawn] at hspawned
      exact h.close old.object _ hspawned

theorem update_keeps (h : cb.Keeps P) (c : Container R C) {w : σ} (hw : P w) :
    P (update cb c w).world := by
  have hexit := exit_update cb c w
  generalize update cb c w = s at hexit
  cases hexit with
  | closed | noCompare => exact hw
  | notFetched _ _ hfetch =>
      have hfetched := h.fetch (some c.view) w hw
      rwa [hfetch] at hfetched
  | @notCompared compare new f w₁ w₂ _ hcompare hfetch hcall =>
      have hfetched := h.fetch (some c.view) w hw
      rw [hfetch] at hfetched
      have hcompared := h.compare compare hcompare c.view c.config new w₁ hfetched
      rwa [hcall] at hcompared
  | kept hd => exact hd.keeps h hw
  | noReset hd => exact hd.keeps h hw
  | @notReset reset new f object w₂ w₃ hd hr hcall =>
      have hreset := h.reset reset hr c.view c.current.object c.config new w₂ (hd.keeps h hw)
      rwa [hcall] at hreset
  | @reset reset new object w₂ w₃ hd hr hcall =>
      have hreset := h.reset reset hr c.view c.current.object c.config new w₂ (hd.keeps h hw)
      rwa [hcall] at hreset
  | @notConstructed new f w₂ w₃ hd hmake =>
      have hmade := h.construct (some c.view) new w₂ (hd.keeps h hw)
      rwa [hmake] at hmade
  | @replaced new object w₂ w₃ hd hmake =>
      have hmade := h.construct (some c.view) new w₂ (hd.keeps h hw)
      rw [hmake] at hmade
      exact retire_keeps h c.current (c.supersede object new) hmade

end Container

end LiveConfig
