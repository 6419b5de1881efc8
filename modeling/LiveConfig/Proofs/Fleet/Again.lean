import LiveConfig.Proofs.Fleet.Served
import LiveConfig.Proofs.Store.Recovered
/-!
A tick that is repeated on the same file.

The second tick finds every container as the first one left it, and so it has nothing to do or fails
as the first one did. It tells the same of it, and no container changes.
-/

set_option autoImplicit false

namespace LiveConfig.Fleet

variable {V : Vocabulary} {R C : V.Updater → Type} {ω α : Type}

/-- A run from `w` and one from `w'` that has no effect, and tells what the first one tells. -/
structure Repeats (P : World V ω → Prop) (w w' : World V (Outside V R C ω))
    (first second : α × World V (Outside V R C ω)) : Prop where
  result : second.1 = first.1
  inner : P first.2.inner
  inner' : P second.2.inner
  containers : second.2.outside.containers = w'.outside.containers
  events : ∃ l l', first.2.outside.events = w.outside.events ++ l ∧
    second.2.outside.events = w'.outside.events ++ l' ∧
    l'.filter FleetEvent.isReport = l.filter FleetEvent.isReport ∧ ∀ e ∈ l', e.Quiet

namespace Repeats

variable {β : Type} {P : World V ω → Prop} {w w' : World V (Outside V R C ω)}
  {first second : α × World V (Outside V R C ω)} {later later' : β × World V (Outside V R C ω)}

theorem refl (hw : P w.inner) (hw' : P w'.inner) (a : α) : Repeats P w w' (a, w) (a, w') where
  result := rfl
  inner := hw
  inner' := hw'
  containers := rfl
  events := ⟨[], [], (List.append_nil _).symm, (List.append_nil _).symm, rfl, nofun⟩

theorem map (h : Repeats P w w' first second) (g : α → β) :
    Repeats P w w' (g first.1, first.2) (g second.1, second.2) where
  result := congrArg g h.result
  inner := h.inner
  inner' := h.inner'
  containers := h.containers
  events := h.events

theorem trans (h : Repeats P w w' first second) (h' : Repeats P first.2 second.2 later later') :
    Repeats P w w' later later' where
  result := h'.result
  inner := h'.inner
  inner' := h'.inner'
  containers := h'.containers.trans h.containers
  events := by
    obtain ⟨l₁, l₁', hfirst, hsecond, hsame, hquiet⟩ := h.events
    obtain ⟨l₂, l₂', hlater, hlater', hsame', hquiet'⟩ := h'.events
    refine ⟨l₁ ++ l₂, l₁' ++ l₂', ?_, ?_, ?_, ?_⟩
    · rw [hlater, hfirst, List.append_assoc]
    · rw [hlater', hsecond, List.append_assoc]
    · rw [List.filter_append, List.filter_append, hsame, hsame']
    · intro e he
      exact (List.mem_append.mp he).elim (hquiet e) (hquiet' e)

end Repeats

variable [DecidableEq V.Updater] {f : Fleet V R C ω} {P : World V ω → Prop} {s : Store V}
  {w w' : World V (Outside V R C ω)}

theorem Orderly.hooks_again (h : f.Orderly P s) {hooks : List V.Hook}
    (hmem : ∀ k ∈ hooks, k ∈ s.registry.before ∨ k ∈ s.registry.after) (hw : P w.inner)
    (hw' : P w'.inner) :
    Repeats P w w' (f.host.runHooks hooks w) (f.host.runHooks hooks w') := by
  obtain ⟨ended, hrun⟩ := h.runHooks hmem
  obtain ⟨v, hv, hfirst⟩ := hrun w hw
  obtain ⟨v', hv', hsecond⟩ := hrun w' hw'
  rw [hfirst, hsecond]
  refine ⟨rfl, hv, hv', rfl, [], [], ?_, ?_, rfl, nofun⟩
  · exact (List.append_nil _).symm
  · exact (List.append_nil _).symm

theorem Orderly.report_again (h : f.Orderly P s) (e : StoreError) (hw : P w.inner)
    (hw' : P w'.inner) : Repeats P w w' (f.host.report e w) (f.host.report e w') := by
  obtain ⟨ended, hrun⟩ := h.report e
  obtain ⟨v, hv, hfirst⟩ := hrun w hw
  obtain ⟨v', hv', hsecond⟩ := hrun w' hw'
  rw [hfirst, hsecond]
  refine ⟨rfl, hv, hv', rfl, [.report s e], [.report s e], rfl, rfl, rfl, ?_⟩
  intro event hevent
  rw [List.mem_singleton.mp hevent, FleetEvent.report]
  split <;> trivial

/-! ### Updaters -/

/-- The container of an updater is left alone from now on. -/
def AtRest (f : Fleet V R C ω) (P : World V ω → Prop) (w : World V (Outside V R C ω))
    (u : V.Updater) : Prop :=
  ∃ result, Container.Calm (f.callbacks u) P (w.outside.containers u) result

section

variable {u : V.Updater}

theorem atRest_updated (hsteady : (f.callbacks u).Steady P) (hw : P w.inner) :
    AtRest f P (f.updated u w) u := by
  obtain ⟨-, hcalm⟩ := hsteady.calm (w.outside.containers u) hw
  have hleft : (f.updated u w).outside.containers u =
      (f.step u (w.outside.containers u) w.inner).container := by
    rw [containers_updated, Function.update_self]
  exact ⟨_, hleft ▸ hcalm⟩

/-- The step of a container that the first update left. -/
theorem step_again (hsteady : (f.callbacks u).Steady P) (hw : P w.inner) (hw' : P w'.inner)
    (hcontainer : w'.outside.containers u = (f.updated u w).outside.containers u) :
    w'.outside.containers u = (f.step u (w.outside.containers u) w.inner).container ∧
      ∃ v', P v' ∧ f.step u (w'.outside.containers u) w'.inner =
        ⟨Container.again (f.step u (w.outside.containers u) w.inner).result,
          w'.outside.containers u, v', []⟩ := by
  obtain ⟨-, hcalm⟩ := hsteady.calm (w.outside.containers u) hw
  rw [containers_updated, Function.update_self] at hcontainer
  obtain ⟨v', hstep, hv'⟩ := hcalm w'.inner hw'
  refine ⟨hcontainer, v', hv', ?_⟩
  rw [hcontainer]
  exact hstep

theorem Orderly.updated_again (h : f.Orderly P s) (hsteady : (f.callbacks u).Steady P)
    (hw : P w.inner) (hw' : P w'.inner)
    (hcontainer : w'.outside.containers u = (f.updated u w).outside.containers u) :
    Repeats P w w' ((), f.updated u w) ((), f.updated u w') := by
  have hworld := (hsteady.calm (w.outside.containers u) hw).1
  obtain ⟨-, v', hv', hstep⟩ := step_again hsteady hw hw' hcontainer
  have hquiet : (FleetEvent.updated u (f.step u (w'.outside.containers u) w'.inner).result
      (f.step u (w'.outside.containers u) w'.inner).closings).Quiet := by
    rw [hstep]
    exact ⟨fun d hd => Container.eq_keep_of_again hd, rfl⟩
  refine ⟨rfl, ?_, ?_, ?_, _, _, f.events_updated u w, f.events_updated u w', rfl, ?_⟩
  · exact h.foldl_note _ hworld
  · exact h.foldl_note _ (by rw [hstep]; exact hv')
  · change (f.updated u w').outside.containers = w'.outside.containers
    rw [containers_updated, hstep]
    exact Function.update_eq_self u w'.outside.containers
  · intro e he
    rw [List.mem_singleton.mp he]
    exact hquiet

theorem Orderly.runUpdater_again (h : f.Orderly P s) (hsteady : (f.callbacks u).Steady P)
    (hw : P w.inner) (hw' : P w'.inner)
    (hcontainer : w'.outside.containers u = (f.updated u w).outside.containers u) :
    Repeats P w w' (f.host.runUpdater u w) (f.host.runUpdater u w') := by
  obtain ⟨hleft, v', -, hstep⟩ := step_again hsteady hw hw' hcontainer
  have hupdated := h.updated_again hsteady hw hw' hcontainer
  rw [runUpdater_eq, runUpdater_eq, hstep]
  cases (f.step u (w.outside.containers u) w.inner).result with
  | ok d => exact hupdated.map fun _ => Except.ok false
  | panic m => exact hupdated.map fun _ => Except.error (Panic.mk m)
  | error e =>
      have hreport := h.report_again
        (.update (f.step u (w.outside.containers u) w.inner).container.name e.message)
        hupdated.inner hupdated.inner'
      rw [hleft]
      exact (hupdated.trans hreport).map fun ended => ended.map fun _ => true

end

theorem Orderly.runUpdaters_atRest (h : f.Orderly P s) {updaters : List V.Updater}
    (hsteady : ∀ u ∈ updaters, (f.callbacks u).Steady P) (hw : P w.inner) {u : V.Updater}
    (hrest : AtRest f P w u) :
    (f.host.runUpdaters updaters w).2.outside.containers u = w.outside.containers u := by
  induction updaters generalizing w with
  | nil => rfl
  | cons u' rest ih =>
      have hfirst := hsteady u' List.mem_cons_self
      obtain ⟨hinner, hcontainers⟩ :=
        h.runUpdater (hfirst.calm (w.outside.containers u') hw).1
      have hsame : (f.host.runUpdater u' w).2.outside.containers u = w.outside.containers u := by
        rw [hcontainers, containers_updated]
        by_cases hu : u = u'
        · subst hu
          obtain ⟨result, hcalm⟩ := hrest
          obtain ⟨v, hstep, -⟩ := hcalm w.inner hw
          rw [Function.update_self, step, hstep]
        · rw [Function.update_of_ne hu]
      rcases hrun : f.host.runUpdater u' w with ⟨ended, w₁⟩
      rw [hrun] at hinner hsame
      cases ended with
      | error p =>
          simp only [Host.runUpdaters, hrun]
          exact hsame
      | ok failed =>
          have hrest₁ : AtRest f P w₁ u := by
            rw [AtRest, hsame]
            exact hrest
          have hlater := ih (fun v hv => hsteady v (List.mem_cons_of_mem u' hv)) hinner hrest₁
          simp only [Host.runUpdaters, hrun]
          exact hlater.trans hsame

theorem Orderly.runUpdaters_again (h : f.Orderly P s) {updaters : List V.Updater}
    (hsteady : ∀ u ∈ updaters, (f.callbacks u).Steady P) (hw : P w.inner) (hw' : P w'.inner)
    (hcontainers : w'.outside.containers = (f.host.runUpdaters updaters w).2.outside.containers) :
    Repeats P w w' (f.host.runUpdaters updaters w) (f.host.runUpdaters updaters w') := by
  induction updaters generalizing w w' with
  | nil => exact .refl hw hw' (Except.ok 0)
  | cons u rest ih =>
      have hfirst := hsteady u List.mem_cons_self
      have hothers : ∀ v ∈ rest, (f.callbacks v).Steady P := fun v hv =>
        hsteady v (List.mem_cons_of_mem u hv)
      obtain ⟨hinner, hleft⟩ := h.runUpdater (hfirst.calm (w.outside.containers u) hw).1
      have hrest : AtRest f P (f.host.runUpdater u w).2 u := by
        rw [AtRest, hleft]
        exact atRest_updated hfirst hw
      -- The rest of the first run leaves the container as its first update left it.
      have hcontainer : w'.outside.containers u = (f.updated u w).outside.containers u := by
        rw [hcontainers, ← hleft]
        rcases hrun : f.host.runUpdater u w with ⟨ended, w₁⟩
        rw [hrun] at hinner hrest
        cases ended with
        | error p => simp only [Host.runUpdaters, hrun]
        | ok failed =>
            simp only [Host.runUpdaters, hrun]
            exact h.runUpdaters_atRest hothers hinner hrest
      have hrepeats := h.runUpdater_again hfirst hw hw' hcontainer
      rcases hrun : f.host.runUpdater u w with ⟨ended, w₁⟩
      rcases hrun' : f.host.runUpdater u w' with ⟨ended', w₁'⟩
      rw [hrun, hrun'] at hrepeats
      obtain rfl : ended' = ended := hrepeats.result
      cases ended' with
      | error p =>
          simp only [Host.runUpdaters, hrun, hrun']
          exact hrepeats.map fun _ => Except.error p
      | ok failed =>
          simp only [Host.runUpdaters, hrun] at hcontainers
          have hlater := ih hothers hrepeats.inner hrepeats.inner'
            (hrepeats.containers.trans hcontainers)
          simp only [Host.runUpdaters, hrun, hrun']
          exact (hrepeats.trans hlater).map fun count => count.map (· + failed.toNat)

theorem Orderly.runRegistered_again (h : f.Orderly P s)
    (hsteady : ∀ u ∈ s.registry.updaters, (f.callbacks u).Steady P) (hw : P w.inner)
    (hw' : P w'.inner) (hcontainers : w'.outside.containers =
      (f.host.runRegistered s.registry w).2.outside.containers) :
    Repeats P w w' (f.host.runRegistered s.registry w) (f.host.runRegistered s.registry w') := by
  have hbefore := h.hooks_again (fun k hk => Or.inl hk) hw hw'
  rcases hrun : f.host.runHooks s.registry.before w with ⟨ended, w₁⟩
  rcases hrun' : f.host.runHooks s.registry.before w' with ⟨ended', w₁'⟩
  rw [hrun, hrun'] at hbefore
  obtain rfl : ended' = ended := hbefore.result
  cases ended' with
  | error p =>
      simp only [Host.runRegistered, hrun, hrun']
      exact hbefore.map fun _ => Except.error p
  | ok _ =>
      simp only [Host.runRegistered, hrun] at hcontainers
      have hleft : w₁'.outside.containers =
          (f.host.runUpdaters s.registry.updaters w₁).2.outside.containers := by
        rw [hbefore.containers, hcontainers]
        rcases hmiddle : f.host.runUpdaters s.registry.updaters w₁ with ⟨count, w₂⟩
        cases count with
        | error p => rfl
        | ok n => exact f.containers_runHooks s.registry.after w₂
      have hmiddle := h.runUpdaters_again hsteady hbefore.inner hbefore.inner' hleft
      rcases hrun₂ : f.host.runUpdaters s.registry.updaters w₁ with ⟨count, w₂⟩
      rcases hrun₂' : f.host.runUpdaters s.registry.updaters w₁' with ⟨count', w₂'⟩
      rw [hrun₂, hrun₂'] at hmiddle
      obtain rfl : count' = count := hmiddle.result
      cases count' with
      | error p =>
          simp only [Host.runRegistered, hrun, hrun', hrun₂, hrun₂']
          exact (hbefore.trans hmiddle).map fun _ => Except.error p
      | ok n =>
          have hafter := h.hooks_again (fun k hk => Or.inr hk) hmiddle.inner hmiddle.inner'
          simp only [Host.runRegistered, hrun, hrun', hrun₂, hrun₂']
          exact ((hbefore.trans hmiddle).trans hafter).map fun finished => finished.map fun _ => n

omit [DecidableEq V.Updater] in
/-- A load from a file that reads as it did changes nothing in the store that the first one left. -/
theorem load_again {σ : Type} {l : Loader V σ} (hl : l.Pure) {w w' : World V σ}
    (hstore : w'.store = (l.load w).2.store)
    (hfile : l.read w'.outside w.store.path = l.read w.outside w.store.path) :
    l.load w' = ((l.load w).1, w') := by
  have hfresh : (l.fresh w').1 = (l.fresh w).1 :=
    hl.fresh_eq (by rw [hstore, hl.path_load]) (by rw [hstore, hl.registry_load]) hfile
  rw [hl.load_eq w', hfresh]
  rw [hl.load_eq w] at hstore ⊢
  cases hfirst : (l.fresh w).1 with
  | error e => rfl
  | panic m => rfl
  | ok m =>
      rw [hfirst] at hstore
      have hsettings : { w'.store with settings := some m } = w'.store := by rw [hstore]
      dsimp only
      rw [hsettings]

theorem Orderly.reload_again (h : f.Orderly P s)
    (hsteady : ∀ u ∈ s.registry.updaters, (f.callbacks u).Steady P)
    {r : Outcome LoadError Unit} {w₁ : World V (Outside V R C ω)} (hload : f.host.load w = (r, w₁))
    (hstore : w₁.store = s) (hw₁ : P w₁.inner) (hload' : f.host.load w' = (r, w'))
    (hstore' : w'.store = s) (hw' : P w'.inner)
    (hcontainers : w'.outside.containers = (f.host.reload w).2.outside.containers) :
    Repeats P w₁ w' (f.host.reload w) (f.host.reload w') := by
  cases r with
  | panic m =>
      simp only [Host.reload, hload, hload']
      exact .refl hw₁ hw' (Except.error (Panic.mk m))
  | error e =>
      simp only [Host.reload, hload, hload']
      exact (h.report_again (.load e) hw₁ hw').map fun reported => reported.map fun _ => 1
  | ok _ =>
      simp only [Host.reload, hload, hload', hstore, hstore'] at hcontainers ⊢
      exact h.runRegistered_again hsteady hw₁ hw' hcontainers

/-- A tick on an unchanged file, after a tick, leaves the store and every container as they are. It
comes to the same, tells the same, and neither makes nor resets nor closes an object. Loggers and
clients that decode their configs from the store are containers of the kind that is asked for. -/
theorem tick_again (f : Fleet V R C ω) (w : World V (Outside V R C ω)) (P : World V ω → Prop)
    (hstore : ∀ v, P v → v.store = (f.host.load w).2.store)
    (hstart : P (f.host.load w).2.inner) (horderly : f.Orderly P (f.host.load w).2.store)
    (hsteady : ∀ u ∈ w.store.registry.updaters, (f.callbacks u).Steady P)
    (hfile : f.read (f.tick w).2.outside.around w.store.path =
      f.read w.outside.around w.store.path) :
    ((f.tick (f.tick w).2).1 = (f.tick w).1 ∧
      (f.tick (f.tick w).2).2.store = (f.tick w).2.store ∧
      (f.tick (f.tick w).2).2.outside.containers = (f.tick w).2.outside.containers ∧
      (f.tick (f.tick w).2).2.outside.events.filter FleetEvent.isReport =
        (f.tick w).2.outside.events.filter FleetEvent.isReport ∧
      ∀ e ∈ (f.tick (f.tick w).2).2.outside.events, e.Quiet) ∧
    (∀ keyPrefix,
      (Http.callbacks (World.fetch (Http.Config.schema keyPrefix) {})).Steady P) ∧
    ∀ (part : Focus (World V ω) Logger.Outside) (keyPrefix : String),
      (∀ config, (f.host.load w).2.store.decoded (Logger.Config.schema keyPrefix) {} = .ok config →
        Logger.OpensAlike part P (fun _ => ()) config.output) →
      (Logger.callbacks part (World.fetch (Logger.Config.schema keyPrefix) {})).Steady P := by
  have hsettings : SameSettings P := fun v v' hv hv' => by rw [hstore v hv, hstore v' hv']
  refine ⟨?_, Http.steady hsettings, fun part keyPrefix hopens =>
    Logger.steady hsettings fun v hv config hconfig => hopens config (hstore v hv ▸ hconfig)⟩
  let w₀ := w.hushed
  let first := f.tick w
  have hregistry : (f.host.load w).2.store.registry = w.store.registry := f.pure.registry_load w
  have hupdaters : ∀ u ∈ (f.host.load w).2.store.registry.updaters, (f.callbacks u).Steady P :=
    hregistry ▸ hsteady
  have hload : f.host.load w₀ = ((f.host.load w).1, (f.host.load w).2.hushed) := by
    have hfresh : (f.host.fresh w₀).1 = (f.host.fresh w).1 := f.pure.fresh_eq rfl rfl rfl
    rw [f.pure.load_eq w₀, f.pure.load_eq w, hfresh]
    cases (f.host.fresh w).1 <;> rfl
  have haround : (f.host.load w).2.outside = w.outside := f.pure.outside_load w
  have hagain : ∀ w' : World V (Outside V R C ω), w'.store = (f.host.load w).2.store →
      f.read w'.outside.around w.store.path = f.read w.outside.around w.store.path →
      f.host.load w' = ((f.host.load w).1, w') := fun w' hs hread => load_again f.pure hs hread
  -- The first tick stays in the worlds of `P`, as a tick that repeats it around the same shows.
  have hinner : P first.2.inner := by
    have hrepeats := horderly.reload_again hupdaters hload rfl hstart
      (hagain (first.2.moved (f.host.load w).2.inner) rfl (by
        change f.read (f.host.load w).2.outside.around w.store.path = _
        rw [haround])) rfl hstart rfl
    exact hrepeats.inner
  have hleft : first.2.store = (f.host.load w).2.store := hstore _ hinner
  have hrepeats := horderly.reload_again hupdaters hload rfl hstart
    (hagain first.2.hushed hleft hfile) hleft hinner rfl
  obtain ⟨l, l', hl, hl', hsame, hquiet⟩ := hrepeats.events
  have hl : first.2.outside.events = l := hl
  have hl' : (f.tick first.2).2.outside.events = l' := hl'
  refine ⟨hrepeats.result, (hstore _ hrepeats.inner').trans hleft.symm, hrepeats.containers, ?_, ?_⟩
  · rw [hl, hl']
    exact hsame
  · rw [hl']
    exact hquiet

/-! ### A crew -/

/-- The codes of a logger and a client, which decode their configs from one store. -/
abbrev Crew : Vocabulary := ⟨Empty, Empty, Bool, Empty⟩

namespace Crew

abbrev Object : Bool → Type
  | true => Logger
  | false => Http.Client

abbrev Config : Bool → Type
  | true => Logger.Config
  | false => Http.Config

def outputs : Focus (World Crew Logger.Outside) Logger.Outside :=
  ⟨fun v => v.outside, fun o v => { v with outside := o }⟩

def fleet (settings : List Setting) : Fleet Crew Object Config Logger.Outside where
  read := fun _ _ => .ok (Setting.written settings).toUTF8
  environment := fun _ => none
  revise := nofun
  callbacks
    | true => Logger.callbacks outputs (World.fetch (Logger.Config.schema "A") {})
    | false => Http.callbacks (World.fetch (Http.Config.schema "A") {})
  hook := nofun
  handle := nofun
  note := fun _ v => v

def unruly : List Setting :=
  [⟨"A_LOG_LEVEL", .text, "loud", by decide, trivial⟩,
    ⟨"A_LOG_OUTPUT", .text, "stdout", by decide, trivial⟩,
    ⟨"A_HTTP_DIAL_TIMEOUT", .int ⟨false, .w64⟩, 5, by decide, by decide⟩]

/-- A crew with these updaters, of which none has run. -/
def start (updaters : List Bool) : World Crew (Outside Crew Object Config Logger.Outside) where
  store := { path := "/f", registry := { updaters } }
  outside :=
    { containers := fun
        | true => Container.fresh "log" ⟨.off, .stdout⟩ ⟨"off", "stdout"⟩
        | false => Container.fresh "http" {} {}
      around := { files := FileTree.start [], time := "" } }

def loaded (updaters : List Bool) : World Crew (Outside Crew Object Config Logger.Outside) :=
  { start updaters with store := { (start updaters).store with
      settings := some (.ofList (unruly.map fun s => (s.key, s.text))) } }

theorem load_start (updaters : List Bool) :
    (fleet unruly).host.load (start updaters) = (.ok (), loaded updaters) := by
  have hfresh : (fleet unruly).host.fresh (start updaters) =
      (.ok (.ofList (unruly.map fun s => (s.key, s.text))), start updaters) := by
    simp only [Loader.fresh, host, fleet, loadContent, Setting.parse_written]
    rfl
  simp only [Loader.load, hfresh]
  rfl

theorem tick_start (updaters : List Bool) : (fleet unruly).tick (start updaters) =
    (fleet unruly).host.runRegistered (start updaters).store.registry (loaded updaters) := by
  have hhushed : (start updaters).hushed = start updaters := rfl
  simp only [tick, Host.reload, hhushed, load_start]
  rfl

theorem opensAlike {P : World Crew Logger.Outside → Prop}
    (hsame : ∀ v o, P v → P (outputs.set o v)) {v : World Crew Logger.Outside}
    (hsettings : v.store.settings = some (.ofList (unruly.map fun s => (s.key, s.text))))
    {config : Logger.Config}
    (hconfig : v.store.decoded (Logger.Config.schema "A") {} = .ok config) {β : Type}
    (see : Logger.Output → β) : Logger.OpensAlike outputs P see config.output := by
  have hdecoded : v.store.decoded (Logger.Config.schema "A") {} = .ok ⟨"loud", "stdout"⟩ := by
    simp only [Store.decoded, Store.items, hsettings]
    rfl
  obtain rfl : config = ⟨"loud", "stdout"⟩ := Except.ok.inj (hconfig.symm.trans hdecoded)
  exact ⟨⟨.ok (see .stdout), fun v _ => rfl⟩, fun v _ o hv _ => hsame v o hv,
    fun v hv => hsame v _ hv⟩

def Loaded (updaters : List Bool) (v : World Crew Logger.Outside) : Prop :=
  v.store = (loaded updaters).store

theorem sameSettings (updaters : List Bool) : SameSettings (Loaded updaters) := by
  intro v v' hv hv'
  rw [hv, hv']

theorem orderly (updaters : List Bool) :
    (fleet unruly).Orderly (Loaded updaters) (loaded updaters).store where
  store := by
    intro v hv
    rw [hv]
    exact ⟨rfl, rfl⟩
  hooks := nofun
  handlers := nofun
  notes := fun _ _ hv => hv

theorem steady (updaters : List Bool) (u : Bool) :
    ((fleet unruly).callbacks u).Steady (Loaded updaters) := by
  cases u with
  | false => exact Http.steady (sameSettings updaters) "A"
  | true =>
      refine Logger.steady (sameSettings updaters) fun v hv config hconfig => ?_
      have hsettings : v.store.settings = some (.ofList (unruly.map fun s => (s.key, s.text))) := by
        rw [hv]
        rfl
      exact opensAlike (fun _ _ h => h) hsettings hconfig _

theorem tick_unruly : ((fleet unruly).tick (start [true, false, true])).1 = .ok 2 ∧
    (((fleet unruly).tick (start [true, false, true])).2.outside.containers false).generation = 2 := by
  rw [tick_start]
  exact ⟨rfl, rfl⟩

end Crew

/-- The logger fails twice in every tick, and the client is replaced in the first one only. -/
theorem tick_again_crew :
    ((Crew.fleet Crew.unruly).tick
      ((Crew.fleet Crew.unruly).tick (Crew.start [true, false, true])).2).1 = .ok 2 ∧
    ((((Crew.fleet Crew.unruly).tick
      ((Crew.fleet Crew.unruly).tick (Crew.start [true, false, true])).2).2.outside.containers
        false).generation = 2) := by
  have hload := Crew.load_start [true, false, true]
  obtain ⟨hcount, hgeneration⟩ := Crew.tick_unruly
  obtain ⟨⟨hresult, -, hcontainers, -⟩, -⟩ :=
    tick_again (Crew.fleet Crew.unruly) (Crew.start [true, false, true])
      (Crew.Loaded [true, false, true]) (by rw [hload]; exact fun v hv => hv)
      (by rw [hload]; exact rfl) (by rw [hload]; exact Crew.orderly _)
      (fun u _ => Crew.steady _ u) (by simp only [Crew.fleet])
  rw [hresult, hcontainers]
  exact ⟨hcount, hgeneration⟩

end LiveConfig.Fleet
