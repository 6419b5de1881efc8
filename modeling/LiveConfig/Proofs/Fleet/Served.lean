import LiveConfig.Proofs.Container.Local
import LiveConfig.Proofs.Fleet.Basic
import LiveConfig.Service.Follower
/-!
Loggers and clients whose configs are decoded from a store.

Clients look at nothing outside of the store, and loggers at the outputs that they open. So as long
as opening an output always comes to the same, the callbacks of both are settled by the settings.
-/

set_option autoImplicit false

namespace LiveConfig

variable {V : Vocabulary} {ω β : Type}

def World.fetch {T : Type} (schema : Schema T) (start : T) (w : World V ω) :
    Outcome String T × World V ω :=
  (Outcome.ofExcept ((w.store.decoded schema start).mapError StoreError.message), w)

theorem Service.loggerCallbacks_eq (keyPrefix : String) :
    Service.loggerCallbacks keyPrefix =
      Logger.callbacks Service.streams (World.fetch (Logger.Config.schema keyPrefix) {}) := rfl

theorem Service.clientCallbacks_eq (keyPrefix : String) :
    Service.clientCallbacks keyPrefix =
      Http.callbacks (World.fetch (Http.Config.schema keyPrefix) {}) := rfl

/-- In the worlds of `P` the settings are the same. -/
def SameSettings (P : World V ω → Prop) : Prop :=
  ∀ v v', P v → P v' → v.store.settings = v'.store.settings

section

variable {P : World V ω → Prop} {T : Type} {schema : Schema T} {start : T}

theorem always_fetch (h : SameSettings P) : ∃ fetched, Always P (World.fetch schema start) fetched := by
  by_cases hworld : ∃ v, P v
  · obtain ⟨v, hv⟩ := hworld
    refine ⟨(World.fetch schema start v).1, fun v' hv' => ⟨?_, hv'⟩⟩
    simp only [World.fetch, Store.decoded, Store.items, h v' v hv' hv]
  · exact ⟨.error "", fun v hv => absurd ⟨v, hv⟩ hworld⟩

theorem decoded_of_fetch {v : World V ω} {config : T}
    (h : (World.fetch schema start v).1 = .ok config) :
    v.store.decoded schema start = .ok config := by
  simp only [World.fetch] at h
  cases hdecoded : v.store.decoded schema start with
  | ok config' =>
      rw [hdecoded] at h
      exact congrArg Except.ok (Outcome.ok.inj h)
  | error e =>
      rw [hdecoded] at h
      exact absurd h nofun

end

/-! ### Clients -/

namespace Http

variable {P : World V ω → Prop}

theorem steady (h : SameSettings P) (keyPrefix : String) :
    (callbacks (World.fetch (Config.schema keyPrefix) {})).Steady P where
  fetch := by
    obtain ⟨fetched, hfetched⟩ := @always_fetch V ω P Config (Config.schema keyPrefix) {} h
    exact ⟨fetched, fun _ => hfetched⟩
  compare := by
    intro compare hcompare old new _
    obtain rfl := Option.some.inj hcompare
    exact ⟨.ok (old.compare new), fun _ v hv => ⟨rfl, hv⟩⟩
  construct := fun new _ => ⟨.ok (), fun _ v hv => ⟨rfl, hv⟩⟩
  reset := nofun
  close := fun _ v hv => hv
  spawn := fun _ v hv => hv
  idle := by
    intro compare hcompare seen config v _
    obtain rfl := Option.some.inj hcompare
    exact congrArg Outcome.ok (if_pos rfl)
  spares := nofun

theorem isLocal (h : SameSettings P) (keyPrefix : String) :
    (callbacks (World.fetch (Config.schema keyPrefix) {})).Local P where
  fetch := fun _ => @always_fetch V ω P Config (Config.schema keyPrefix) {} h
  compare := by
    intro compare hcompare seen old new _
    obtain rfl := Option.some.inj hcompare
    exact ⟨.ok (old.compare new), fun v hv => ⟨rfl, hv⟩⟩
  construct := fun _ _ _ => ⟨.ok {}, fun v hv => ⟨rfl, hv⟩⟩
  reset := nofun
  close := fun object => ⟨(.ok (), object.close), fun v hv => ⟨rfl, hv⟩⟩
  spawn := fun _ => ⟨.ok (), fun v hv => ⟨rfl, hv⟩⟩

end Http

/-! ### Loggers -/

namespace Logger

variable {part : Focus (World V ω) Outside} {P : World V ω → Prop} {see : Output → β}

/-- In the worlds of `P`, opening a name always comes to the same, as far as `see` shows of the
output, and stays in them. -/
structure OpensAlike (part : Focus (World V ω) Outside) (P : World V ω → Prop) (see : Output → β)
    (name : String) : Prop where
  ended : ∃ ended : Except LoggerError β, ∀ v, P v →
    ((part.get v).open name).map (fun opened => see opened.1) = ended
  stays : ∀ v out o, P v → (part.get v).open name = .ok (out, o) → P (part.set o v)
  keeps : ∀ v, P v → P (part.set (part.get v) v)

theorem construct_alike {config : Config} (h : OpensAlike part P see config.output) :
    ∃ ended : Outcome String (Level × β), ∀ v, P v →
      (construct part config v).1.map (fun l => (l.level, see l.output)) = ended ∧
        P (construct part config v).2 := by
  obtain ⟨ended, hended⟩ := h.ended
  cases hlevel : readLevel config.level with
  | error e =>
      refine ⟨.error e.message, fun v hv => ?_⟩
      have hmake : make config (part.get v) = .error e := by
        simp only [make, hlevel]
        rfl
      simp only [construct, hmake]
      exact ⟨rfl, hv⟩
  | ok level =>
      refine ⟨(Outcome.ofExcept (ended.mapError LoggerError.message)).map fun b => (level, b),
        fun v hv => ?_⟩
      rw [← hended v hv]
      cases hopen : (part.get v).open config.output with
      | error e =>
          have hmake : make config (part.get v) = .error e := by
            simp only [make, hlevel, hopen]
            rfl
          simp only [construct, hmake]
          exact ⟨rfl, hv⟩
      | ok opened =>
          have hmake : make config (part.get v) = .ok (⟨level, opened.1⟩, opened.2) := by
            simp only [make, hlevel, hopen]
            rfl
          simp only [construct, hmake]
          exact ⟨rfl, h.stays v opened.1 opened.2 hv hopen⟩

theorem reset_eq (l : Logger) (old new : Config) (o : Outside) : l.reset old new o =
    (if old.level = new.level then .ok l.level else readLevel new.level).bind fun level =>
      (if old.output = new.output then .ok (l.output, o) else o.open new.output).bind fun opened =>
        .ok (⟨level, opened.1⟩, opened.2) := by
  by_cases hlevel : old.level = new.level <;> by_cases houtput : old.output = new.output <;>
    simp [reset, hlevel, houtput, Bind.bind]

theorem resetIn_alike {old new : Config} (h : OpensAlike part P see new.output) (l : Logger) :
    ∃ ended : Outcome String Unit × Level × β, ∀ v, P v →
      ((resetIn part l old new v).1, (resetIn part l old new v).2.1.level,
        see (resetIn part l old new v).2.1.output) = ended ∧
      P (resetIn part l old new v).2.2 := by
  obtain ⟨ended, hended⟩ := h.ended
  cases hlevel : (if old.level = new.level then .ok l.level else readLevel new.level) with
  | error e =>
      refine ⟨(.error e.message, l.level, see l.output), fun v hv => ?_⟩
      have hreset : l.reset old new (part.get v) = .error e := by
        rw [reset_eq, hlevel]
        rfl
      simp only [resetIn, hreset]
      exact ⟨trivial, hv⟩
  | ok level =>
      by_cases houtput : old.output = new.output
      · refine ⟨(.ok (), level, see l.output), fun v hv => ?_⟩
        have hreset : l.reset old new (part.get v) = .ok (⟨level, l.output⟩, part.get v) := by
          rw [reset_eq, hlevel, if_pos houtput]
          rfl
        simp only [resetIn, hreset]
        exact ⟨trivial, h.keeps v hv⟩
      · have hreset : ∀ o : Outside, l.reset old new o =
            (o.open new.output).map fun opened => (⟨level, opened.1⟩, opened.2) := by
          intro o
          rw [reset_eq, hlevel, if_neg houtput]
          cases o.open new.output <;> rfl
        cases ended with
        | error e =>
            refine ⟨(.error e.message, l.level, see l.output), fun v hv => ?_⟩
            have hopen := hended v hv
            cases hopened : (part.get v).open new.output with
            | ok opened =>
                rw [hopened] at hopen
                exact absurd hopen nofun
            | error e' =>
                rw [hopened] at hopen
                obtain rfl : e' = e := Except.error.inj hopen
                simp only [resetIn, hreset, hopened]
                exact ⟨rfl, hv⟩
        | ok b =>
            refine ⟨(.ok (), level, b), fun v hv => ?_⟩
            have hopen := hended v hv
            cases hopened : (part.get v).open new.output with
            | error e =>
                rw [hopened] at hopen
                exact absurd hopen nofun
            | ok opened =>
                rw [hopened] at hopen
                obtain rfl : see opened.1 = b := Except.ok.inj hopen
                simp only [resetIn, hreset, hopened]
                exact ⟨rfl, h.stays v opened.1 opened.2 hv hopened⟩

/-- Where every output that is decoded opens or fails to open alike, loggers are steady. -/
theorem steady (h : SameSettings P) {keyPrefix : String}
    (hopens : ∀ v, P v → ∀ config, v.store.decoded (Config.schema keyPrefix) {} = .ok config →
      OpensAlike part P (fun _ => ()) config.output) :
    (callbacks part (World.fetch (Config.schema keyPrefix) {})).Steady P where
  fetch := by
    obtain ⟨fetched, hfetched⟩ := @always_fetch V ω P Config (Config.schema keyPrefix) {} h
    exact ⟨fetched, fun _ => hfetched⟩
  compare := by
    intro compare hcompare old new _
    obtain rfl := Option.some.inj hcompare
    exact ⟨.ok (old.compare new), fun _ v hv => ⟨rfl, hv⟩⟩
  construct := by
    rintro new ⟨seen, v, hv, hfetch⟩
    obtain ⟨ended, hended⟩ := construct_alike (hopens v hv new (decoded_of_fetch hfetch))
    refine ⟨ended.map fun _ => (), fun _ v' hv' => ?_⟩
    obtain ⟨hmade, hstays⟩ := hended v' hv'
    refine ⟨?_, hstays⟩
    rw [← hmade]
    change ((construct part new v').1.map fun _ => ()) = _
    cases (construct part new v').1 <;> rfl
  reset := by
    rintro reset hreset object old new ⟨seen, v, hv, hfetch⟩
    obtain rfl := Option.some.inj hreset
    obtain ⟨ended, hended⟩ :=
      @resetIn_alike _ _ _ _ _ _ old new (hopens v hv new (decoded_of_fetch hfetch)) object
    refine ⟨ended.1, fun _ v' hv' => ?_⟩
    obtain ⟨hdone, hstays⟩ := hended v' hv'
    exact ⟨congrArg Prod.fst hdone, hstays⟩
  close := fun _ v hv => hv
  spawn := fun _ v hv => hv
  idle := by
    intro compare hcompare seen config v _
    obtain rfl := Option.some.inj hcompare
    exact congrArg Outcome.ok (if_pos rfl)
  spares := by
    intro reset hreset seen object old new v _ hfailed
    obtain rfl := Option.some.inj hreset
    change (resetIn part object old new v).2.1 = object
    change (resetIn part object old new v).1 ≠ .ok () at hfailed
    simp only [resetIn] at hfailed ⊢
    cases hdone : object.reset old new (part.get v) with
    | error e => rfl
    | ok done =>
        rw [hdone] at hfailed
        exact absurd rfl hfailed

/-- Where every output that is decoded always opens as the same output, or fails in the same way,
loggers are local. -/
theorem isLocal (h : SameSettings P) {keyPrefix : String}
    (hopens : ∀ v, P v → ∀ config, v.store.decoded (Config.schema keyPrefix) {} = .ok config →
      OpensAlike part P id config.output) :
    (callbacks part (World.fetch (Config.schema keyPrefix) {})).Local P where
  fetch := fun _ => @always_fetch V ω P Config (Config.schema keyPrefix) {} h
  compare := by
    intro compare hcompare seen old new _
    obtain rfl := Option.some.inj hcompare
    exact ⟨.ok (old.compare new), fun v hv => ⟨rfl, hv⟩⟩
  construct := by
    rintro seen new ⟨seen', v, hv, hfetch⟩
    obtain ⟨ended, hended⟩ := construct_alike (hopens v hv new (decoded_of_fetch hfetch))
    refine ⟨ended.map fun made => ⟨made.1, made.2⟩, fun v' hv' => ?_⟩
    obtain ⟨hmade, hstays⟩ := hended v' hv'
    refine ⟨?_, hstays⟩
    rw [← hmade]
    change (construct part new v').1 = _
    cases (construct part new v').1 <;> rfl
  reset := by
    rintro reset hreset seen object old new ⟨seen', v, hv, hfetch⟩
    obtain rfl := Option.some.inj hreset
    obtain ⟨ended, hended⟩ :=
      @resetIn_alike _ _ _ _ _ _ old new (hopens v hv new (decoded_of_fetch hfetch)) object
    refine ⟨(ended.1, ⟨ended.2.1, ended.2.2⟩), fun v' hv' => ?_⟩
    obtain ⟨rfl, hstays⟩ := hended v' hv'
    exact ⟨rfl, hstays⟩
  close := fun object => ⟨(.ok (), object.close), fun v hv => ⟨rfl, hv⟩⟩
  spawn := fun _ => ⟨.ok (), fun v hv => ⟨rfl, hv⟩⟩

end Logger

end LiveConfig
