import LiveConfig.Proofs.Fleet.Served
import LiveConfig.Proofs.Http.Decoding
/-!
Clients that are replaced when their settings change.

A tick decodes the settings it has just loaded, over the defaults and not over what was decoded
before. So a client depends on the latest settings that could be decoded, and a tick replaces it if
these differ from the ones it was made for.
-/

set_option autoImplicit false

namespace LiveConfig

variable {V : Vocabulary} {ω : Type}

namespace Http

/-- What a container comes to that is given a config. -/
structure Took (new : Config) (c c' : Serving) : Prop where
  config : c'.config = new
  serving : c'.isClosed = false
  kept : new = c.config → c' = c
  replaced : new ≠ c.config → c'.generation = c.generation + 1

theorem Took.generation_iff {new : Config} {c c' : Serving} (h : Took new c c') :
    c'.generation = c.generation + 1 ↔ new ≠ c.config := by
  constructor
  · intro hgeneration hsame
    rw [h.kept hsame] at hgeneration
    omega
  · exact h.replaced

def undecoded (c : Serving) (e : DecodeError) : StoreError :=
  .update c.name (ContainerError.fetch (StoreError.load (.decode e)).message).message

section

variable {keyPrefix : String} {c : Serving} {v : World V ω}

theorem update_decoded (hopen : c.isClosed = false) {new : Config}
    (hnew : v.store.decoded (Config.schema keyPrefix) {} = .ok new) :
    ∃ d closings c', c.update (callbacks (World.fetch (Config.schema keyPrefix) {})) v =
      ⟨.ok d, c', v, closings⟩ ∧ Took new c c' := by
  have hfetch : World.fetch (Config.schema keyPrefix) {} v = (.ok new, v) := by
    rw [World.fetch, hnew]
    rfl
  by_cases hsame : c.config = new
  · refine ⟨.keep, [], c, ?_, hsame, hopen, fun _ => rfl, fun hne => absurd hsame.symm hne⟩
    simp [Container.update, hopen, callbacks, hfetch, Config.compare, hsame]
  · have hphase : c.phase = .serving := by simpa [Container.isClosed] using hopen
    have hupdate : c.update (callbacks (World.fetch (Config.schema keyPrefix) {})) v =
        Container.applyReplace (callbacks (World.fetch (Config.schema keyPrefix) {})) c new v := by
      simp [Container.update, hopen, callbacks, hfetch, Config.compare, hsame]
    rw [hupdate]
    by_cases hleases : c.current.leases = 0
    · refine ⟨.replace, [.closed c.generation true (.ok ())], c.supersede {} new, ?_, rfl, ?_,
        fun heq => absurd heq.symm hsame, fun _ => rfl⟩
      · simp [Container.applyReplace, callbacks, Container.retire, hleases, Container.generation]
      · simp [Container.isClosed, Container.supersede, hphase]
    · refine ⟨.replace, [], { c.supersede {} new with superseded := c.superseded ++ [c.current] },
        ?_, rfl, ?_, fun heq => absurd heq.symm hsame, fun _ => rfl⟩
      · simp [Container.applyReplace, callbacks, Container.retire, Container.keep, hleases,
          Container.supersede]
      · simp [Container.isClosed, Container.supersede, hphase]

theorem update_undecoded (hopen : c.isClosed = false) {e : StoreError}
    (he : v.store.decoded (Config.schema keyPrefix) {} = .error e) :
    c.update (callbacks (World.fetch (Config.schema keyPrefix) {})) v =
      ⟨.error (.fetch e.message), c, v, []⟩ := by
  have hfetch : World.fetch (Config.schema keyPrefix) {} v = (.error e.message, v) := by
    rw [World.fetch, he]
    rfl
  simp [Container.update, hopen, callbacks, hfetch]

end

end Http

def World.amid {R C : V.Updater → Type} (w : World V (Fleet.Outside V R C ω)) (o : ω) :
    World V (Fleet.Outside V R C ω) :=
  { w with outside := { w.outside with around := o } }

namespace Fleet

/-! ### Hooks and handlers that do not matter -/

section

variable {R C : V.Updater → Type} [DecidableEq V.Updater]

/-- What is registered besides the containers returns, and leaves the store as it is. -/
structure Polite (f : Fleet V R C ω) (r : Registry V) : Prop where
  hooks : ∀ k, k ∈ r.before ∨ k ∈ r.after → ∀ v,
    (f.hook k v).1 = .ok () ∧ (f.hook k v).2.store = v.store
  handlers : ∀ k, r.handler = some k → ∀ e v,
    (f.handle k e v).1 = .ok () ∧ (f.handle k e v).2.store = v.store
  notes : ∀ n v, (f.note n v).store = v.store

namespace Polite

variable {f : Fleet V R C ω} {r : Registry V} {w : World V (Outside V R C ω)}

theorem runHooks (h : f.Polite r) {hooks : List V.Hook}
    (hmem : ∀ k ∈ hooks, k ∈ r.before ∨ k ∈ r.after) (w : World V (Outside V R C ω)) :
    ∃ v : World V ω, v.store = w.store ∧ f.host.runHooks hooks w = (.ok (), w.moved v) := by
  induction hooks generalizing w with
  | nil => exact ⟨w.inner, rfl, rfl⟩
  | cons k rest ih =>
      obtain ⟨hended, hstore⟩ := h.hooks k (hmem k List.mem_cons_self) w.inner
      have hhook : f.host.hook k w = (.ok (), w.moved (f.hook k w.inner).2) :=
        Prod.ext hended rfl
      obtain ⟨v, hv, hrest⟩ := ih (fun k' hk' => hmem k' (List.mem_cons_of_mem k hk'))
        (w.moved (f.hook k w.inner).2)
      refine ⟨v, hv.trans hstore, ?_⟩
      simp only [Host.runHooks, hhook, hrest]
      rfl

theorem report (h : f.Polite r) (hw : w.store.registry = r) (e : StoreError) :
    ∃ v : World V ω, v.store = w.store ∧
      f.host.report e w = (.ok (), (w.moved v).tell (.report w.store e)) := by
  subst hw
  cases hhandler : w.store.registry.handler with
  | none =>
      refine ⟨f.note (.reloadFailed w.store.path e.message) w.inner, h.notes _ _, ?_⟩
      simp only [Host.report, FleetEvent.report, hhandler]
      rfl
  | some k =>
      obtain ⟨hended, hstore⟩ := h.handlers k hhandler e w.inner
      have hhandle : f.host.handle k e w =
          (.ok (), (w.moved (f.handle k e w.inner).2).tell (.handled k e)) := Prod.ext hended rfl
      refine ⟨(f.handle k e w.inner).2, hstore, ?_⟩
      simp only [Host.report, FleetEvent.report, hhandler, hhandle]

omit [DecidableEq V.Updater] in
theorem foldl_note (h : f.Polite r) (notices : List Notice) (v : World V ω) :
    (notices.foldl (fun v n => f.note n v) v).store = v.store := by
  induction notices generalizing v with
  | nil => rfl
  | cons n rest ih => exact (ih (f.note n v)).trans (h.notes n v)

theorem store_updated (h : f.Polite r) {u : V.Updater}
    (hstep : (f.step u (w.outside.containers u) w.inner).world.store = w.store) :
    (f.updated u w).store = w.store :=
  (h.foldl_note _ _).trans hstep

theorem runRegistered (h : f.Polite r) (w : World V (Outside V R C ω)) :
    ∃ v : World V ω, v.store = w.store ∧ ∀ n w',
      f.host.runUpdaters r.updaters (w.moved v) = (.ok n, w') →
        ∃ v' : World V ω, v'.store = w'.store ∧ f.host.runRegistered r w = (.ok n, w'.moved v') := by
  obtain ⟨v, hv, hbefore⟩ := h.runHooks (fun k hk => Or.inl hk) w
  refine ⟨v, hv, fun n w' hrun => ?_⟩
  obtain ⟨v', hv', hafter⟩ := h.runHooks (fun k hk => Or.inr hk) w'
  refine ⟨v', hv', ?_⟩
  simp only [Host.runRegistered, hbefore, hrun, hafter]
  rfl

end Polite

end

/-! ### A client on its own -/

section

abbrev Clients (V : Vocabulary) (ω : Type) :=
  Fleet V (fun _ => Http.Client) (fun _ => Http.Config) ω

abbrev ClientWorld (V : Vocabulary) (ω : Type) :=
  World V (Outside V (fun _ => Http.Client) (fun _ => Http.Config) ω)

variable [DecidableEq V.Updater]

/-- A container of clients is the only updater of the store, and serves. -/
structure Serves (f : Clients V ω) (u : V.Updater) (keyPrefix : String) (w : ClientWorld V ω) : Prop where
  callbacks : f.callbacks u = Http.callbacks (World.fetch (Http.Config.schema keyPrefix) {})
  polite : f.Polite w.store.registry
  only : w.store.registry.updaters = [u]
  serving : (w.outside.containers u).isClosed = false

/-- The ways in which a tick of a client ends. -/
inductive ClientTick (f : Clients V ω) (u : V.Updater) (keyPrefix : String)
    (w : ClientWorld V ω) : Except Panic Nat × ClientWorld V ω → Prop
  /-- The config that was decoded is the config of the container. -/
  | took {m : Settings} {new : Http.Config} {w' : ClientWorld V ω} :
      (f.host.fresh w).1 = .ok m → (Http.Config.schema keyPrefix).decoded m {} = .ok new →
      w'.store = { w.store with settings := some m } →
      Http.Took new (w.outside.containers u) (w'.outside.containers u) →
      w'.outside.events.filter FleetEvent.isReport = [] → ClientTick f u keyPrefix w (.ok 0, w')
  /-- Nothing was decoded, and the container is as it was. -/
  | undecoded {m : Settings} {e : DecodeError} {w' : ClientWorld V ω} :
      (f.host.fresh w).1 = .ok m → (Http.Config.schema keyPrefix).decoded m {} = .error e →
      w'.store = { w.store with settings := some m } →
      w'.outside.containers u = w.outside.containers u →
      w'.outside.events.filter FleetEvent.isReport =
        [.report w.store (Http.undecoded (w.outside.containers u) e)] →
      ClientTick f u keyPrefix w (.ok 1, w')
  /-- Nothing was loaded, and the container is as it was. -/
  | unloaded {e : LoadError} {w' : ClientWorld V ω} :
      (f.host.fresh w).1 = .error e → w'.store = w.store →
      w'.outside.containers u = w.outside.containers u →
      w'.outside.events.filter FleetEvent.isReport = [.report w.store (.load e)] →
      ClientTick f u keyPrefix w (.ok 1, w')
  /-- A revision panicked, and nothing changed. -/
  | panicked {m : String} : (f.host.fresh w).1 = .panic m →
      ClientTick f u keyPrefix w (.error ⟨m⟩, w.hushed)

variable {f : Clients V ω} {u : V.Updater} {keyPrefix : String} {w w' : ClientWorld V ω}
  {m : Settings}

namespace Serves

theorem runUpdaters_decoded (h : f.Serves u keyPrefix w) (hm : w.store.settings = some m)
    {new : Http.Config} (hnew : (Http.Config.schema keyPrefix).decoded m {} = .ok new) :
    ∃ w', f.host.runUpdaters [u] w = (.ok 0, w') ∧ w'.store = w.store ∧
      Http.Took new (w.outside.containers u) (w'.outside.containers u) ∧
      w'.outside.events.filter FleetEvent.isReport =
        w.outside.events.filter FleetEvent.isReport := by
  have hdecoded : w.inner.store.decoded (Http.Config.schema keyPrefix) {} = .ok new := by
    simp only [World.inner, Store.decoded, Store.items, hm, Bind.bind, Except.bind, hnew]
  obtain ⟨d, closings, c', hupdate, htook⟩ := Http.update_decoded h.serving hdecoded
  have hstep : f.step u (w.outside.containers u) w.inner = ⟨.ok d, c', w.inner, closings⟩ := by
    rw [step, h.callbacks]
    exact hupdate
  have hrun : f.host.runUpdaters [u] w = (.ok 0, f.updated u w) := by
    simp only [Host.runUpdaters, runUpdater_eq, hstep]
    rfl
  refine ⟨f.updated u w, hrun, ?_, ?_, ?_⟩
  · apply h.polite.store_updated
    rw [hstep]
    rfl
  · rw [containers_updated, Function.update_self, hstep]
    exact htook
  · rw [events_updated, List.filter_append]
    exact List.append_nil _

theorem runUpdaters_undecoded (h : f.Serves u keyPrefix w) (hm : w.store.settings = some m)
    {e : DecodeError} (he : (Http.Config.schema keyPrefix).decoded m {} = .error e) :
    ∃ w', f.host.runUpdaters [u] w = (.ok 1, w') ∧ w'.store = w.store ∧
      w'.outside.containers u = w.outside.containers u ∧
      w'.outside.events.filter FleetEvent.isReport =
        w.outside.events.filter FleetEvent.isReport ++
          [.report w.store (Http.undecoded (w.outside.containers u) e)] := by
  have hdecoded : w.inner.store.decoded (Http.Config.schema keyPrefix) {} =
      .error (.load (.decode e)) := by
    simp only [World.inner, Store.decoded, Store.items, hm, Bind.bind, Except.bind, he]
  have hstep : f.step u (w.outside.containers u) w.inner =
      ⟨.error (.fetch (StoreError.load (.decode e)).message), w.outside.containers u, w.inner, []⟩ := by
    rw [step, h.callbacks]
    exact Http.update_undecoded h.serving hdecoded
  have hstore : (f.updated u w).store = w.store := by
    apply h.polite.store_updated
    rw [hstep]
    rfl
  have hcontainer : (f.updated u w).outside.containers u = w.outside.containers u := by
    rw [containers_updated, Function.update_self, hstep]
  obtain ⟨v, hv, hreport⟩ := h.polite.report (congrArg Store.registry hstore)
    (Http.undecoded (w.outside.containers u) e)
  rw [hstore] at hreport
  have hrun : f.host.runUpdaters [u] w = (.ok 1, ((f.updated u w).moved v).tell
      (.report w.store (Http.undecoded (w.outside.containers u) e))) := by
    rw [Http.undecoded] at hreport ⊢
    simp only [Host.runUpdaters, runUpdater_eq, hstep, hreport]
    rfl
  refine ⟨_, hrun, hv.trans hstore, hcontainer, ?_⟩
  change ((f.updated u w).outside.events ++ [_]).filter FleetEvent.isReport = _
  rw [events_updated, hstep, List.filter_append, List.filter_append]
  simp

/-- A tick ends in one of the ways. -/
theorem clientTick (h : f.Serves u keyPrefix w) : f.ClientTick u keyPrefix w (f.tick w) := by
  have hfresh : (f.host.fresh w.hushed).1 = (f.host.fresh w).1 := f.pure.fresh_eq rfl rfl rfl
  cases hm : (f.host.fresh w).1 with
  | panic p =>
      have htick : f.tick w = (.error ⟨p⟩, w.hushed) := by
        simp only [tick, Host.reload, f.pure.load_eq, hfresh, hm]
      rw [htick]
      exact .panicked hm
  | error e =>
      obtain ⟨v, hv, hreport⟩ := h.polite.report (w := w.hushed) rfl (.load e)
      have htick : f.tick w = (.ok 1, (w.hushed.moved v).tell (.report w.store (.load e))) := by
        simp only [tick, Host.reload, f.pure.load_eq, hfresh, hm, hreport]
        rfl
      rw [htick]
      refine .unloaded hm hv rfl ?_
      change [FleetEvent.report w.store (.load e)].filter FleetEvent.isReport = _
      simp
  | ok m =>
      let w₁ : ClientWorld V ω := { w.hushed with store := { w.store with settings := some m } }
      have htick : f.tick w = f.host.runRegistered w.store.registry w₁ := by
        simp only [tick, Host.reload, f.pure.load_eq, hfresh, hm]
        rfl
      obtain ⟨v, hv, hrun⟩ := h.polite.runRegistered w₁
      have hserves : f.Serves u keyPrefix (w₁.moved v) := by
        refine ⟨h.callbacks, ?_, ?_, h.serving⟩
        · change f.Polite v.store.registry
          rw [hv]
          exact h.polite
        · change v.store.registry.updaters = [u]
          rw [hv]
          exact h.only
      have hsettings : (w₁.moved v).store.settings = some m := congrArg Store.settings hv
      rw [h.only] at hrun
      cases hdecoded : (Http.Config.schema keyPrefix).decoded m {} with
      | ok new =>
          obtain ⟨w₂, hupdated, hstore, htook, hreports⟩ :=
            hserves.runUpdaters_decoded hsettings hdecoded
          obtain ⟨v', hv', hended⟩ := hrun 0 w₂ hupdated
          rw [htick, hended]
          exact .took hm hdecoded (hv'.trans (hstore.trans hv)) htook hreports
      | error e =>
          obtain ⟨w₂, hupdated, hstore, hkept, hreports⟩ :=
            hserves.runUpdaters_undecoded hsettings hdecoded
          obtain ⟨v', hv', hended⟩ := hrun 1 w₂ hupdated
          rw [htick, hended]
          refine .undecoded hm hdecoded (hv'.trans (hstore.trans hv)) hkept ?_
          refine hreports.trans ?_
          change [] ++ [FleetEvent.report v.store _] = _
          rw [hv]
          rfl

end Serves

/-! ### Rounds -/

/-- The world after ticks, each with something else around the containers. -/
def after {R C : V.Updater → Type} (f : Fleet V R C ω) (w : World V (Outside V R C ω))
    (rounds : List ω) : World V (Outside V R C ω) :=
  rounds.foldl (fun w o => (f.tick (w.amid o)).2) w

theorem ClientTick.serves {s : Except Panic Nat × ClientWorld V ω}
    (ht : f.ClientTick u keyPrefix w s) (h : f.Serves u keyPrefix w) :
    f.Serves u keyPrefix s.2 ∧ ∃ settings, s.2.store = { w.store with settings } := by
  have hserves : ∀ w' : ClientWorld V ω, ∀ settings, w'.store = { w.store with settings } →
      (w'.outside.containers u).isClosed = false → f.Serves u keyPrefix w' := by
    intro w' settings hstore hserving
    refine ⟨h.callbacks, ?_, ?_, hserving⟩
    · rw [hstore]
      exact h.polite
    · rw [hstore]
      exact h.only
  cases ht with
  | took hm hnew hstore htook => exact ⟨hserves _ _ hstore htook.serving, _, hstore⟩
  | undecoded hm he hstore hkept => exact ⟨hserves _ _ hstore (hkept ▸ h.serving), _, hstore⟩
  | unloaded he hstore hkept =>
      exact ⟨hserves _ w.store.settings hstore (hkept ▸ h.serving), w.store.settings, hstore⟩
  | panicked hp => exact ⟨hserves _ w.store.settings rfl h.serving, w.store.settings, rfl⟩

omit [DecidableEq V.Updater] in
theorem Serves.amid (h : f.Serves u keyPrefix w) (o : ω) : f.Serves u keyPrefix (w.amid o) :=
  ⟨h.callbacks, h.polite, h.only, h.serving⟩

theorem Serves.after (h : f.Serves u keyPrefix w) (rounds : List ω) :
    f.Serves u keyPrefix (f.after w rounds) ∧
      ∃ settings, (f.after w rounds).store = { w.store with settings } := by
  induction rounds generalizing w with
  | nil => exact ⟨h, w.store.settings, rfl⟩
  | cons o rounds ih =>
      obtain ⟨hnext, settings, hstore⟩ := (h.amid o).clientTick.serves (h.amid o)
      obtain ⟨hlast, settings', hstore'⟩ := ih hnext
      refine ⟨hlast, settings', hstore'.trans ?_⟩
      rw [hstore]
      rfl

theorem Serves.took (h : f.Serves u keyPrefix w) (hm : (f.host.fresh w).1 = .ok m)
    {new : Http.Config} (hnew : (Http.Config.schema keyPrefix).decoded m {} = .ok new) :
    (f.tick w).1 = .ok 0 ∧
      Http.Took new (w.outside.containers u) ((f.tick w).2.outside.containers u) := by
  have ht := h.clientTick
  generalize f.tick w = s at ht
  cases ht with
  | took hm' hnew' _ htook =>
      obtain rfl := Outcome.ok.inj (hm.symm.trans hm')
      obtain rfl := Except.ok.inj (hnew.symm.trans hnew')
      exact ⟨rfl, htook⟩
  | undecoded hm' he =>
      obtain rfl := Outcome.ok.inj (hm.symm.trans hm')
      have hno := hnew.symm.trans he
      cases hno
  | unloaded he =>
      have hno := hm.symm.trans he
      cases hno
  | panicked hp =>
      have hno := hm.symm.trans hp
      cases hno

theorem Serves.kept (h : f.Serves u keyPrefix w) (hsame : ∀ m new, (f.host.fresh w).1 = .ok m →
      (Http.Config.schema keyPrefix).decoded m {} = .ok new →
        new = (w.outside.containers u).config) :
    (f.tick w).2.outside.containers u = w.outside.containers u := by
  have ht := h.clientTick
  generalize f.tick w = s at ht
  cases ht with
  | took hm hnew _ htook => exact htook.kept (hsame _ _ hm hnew)
  | undecoded _ _ _ hkept => exact hkept
  | unloaded _ _ hkept => exact hkept
  | panicked _ => rfl

theorem Serves.replaced_iff (h : f.Serves u keyPrefix w) :
    (((f.tick w).2.outside.containers u).generation =
        (w.outside.containers u).generation + 1 ↔
      ∃ m new, (f.host.fresh w).1 = .ok m ∧ (Http.Config.schema keyPrefix).decoded m {} = .ok new ∧
        new ≠ (w.outside.containers u).config) ∧
    (((f.tick w).2.outside.containers u).generation ≠
        (w.outside.containers u).generation + 1 →
      (f.tick w).2.outside.containers u = w.outside.containers u) := by
  by_cases hchange : ∃ m new, (f.host.fresh w).1 = .ok m ∧
      (Http.Config.schema keyPrefix).decoded m {} = .ok new ∧ new ≠ (w.outside.containers u).config
  · obtain ⟨m, new, hm, hnew, hne⟩ := hchange
    have hreplaced := (h.took hm hnew).2.replaced hne
    exact ⟨⟨fun _ => ⟨m, new, hm, hnew, hne⟩, fun _ => hreplaced⟩,
      fun hother => absurd hreplaced hother⟩
  · have hkept := h.kept fun m new hm hnew => not_not.mp fun hne =>
      hchange ⟨m, new, hm, hnew, hne⟩
    refine ⟨⟨fun hgeneration => ?_, fun hchanged => absurd hchanged hchange⟩, fun _ => hkept⟩
    rw [hkept] at hgeneration
    omega

end

/-- Whatever is in the file from one tick to the next: after each tick a client has the config that
is decoded from the settings just loaded, and it is replaced exactly if that is another one. If
nothing can be loaded or decoded, it stays as it is, and one error is reported. So an item whose key
is taken out or made blank is at its default again, and a file that gives the keys the same numbers
never replaces the client, however it was edited. -/
theorem client_replaced_iff [DecidableEq V.Updater] (f : Clients V ω) (u : V.Updater)
    (keyPrefix : String) (w : ClientWorld V ω) (h : f.Serves u keyPrefix w) (rounds : List ω) :
    (∀ o, let w₁ := (f.after w rounds).amid o
      let c := w₁.outside.containers u
      let c' := (f.tick w₁).2.outside.containers u
      f.ClientTick u keyPrefix w₁ (f.tick w₁) ∧
      (c'.generation = c.generation + 1 ↔ ∃ m new, (f.host.fresh w₁).1 = .ok m ∧
        (Http.Config.schema keyPrefix).decoded m {} = .ok new ∧ new ≠ c.config) ∧
      (c'.generation ≠ c.generation + 1 → c' = c) ∧
      ∀ m new, (f.host.fresh w₁).1 = .ok m → (Http.Config.schema keyPrefix).decoded m {} = .ok new →
        ∀ item, (∀ raw, m.get? (Http.Item.key keyPrefix item) = some raw → Text.blank raw = true) →
          item.get c'.config = item.get {} ∧
            (item.get c.config ≠ item.get {} → c'.generation = c.generation + 1)) ∧
    ∀ o o', let w₁ := (f.after w rounds).amid o
      let w₂ := (f.tick w₁).2.amid o'
      let c := w₂.outside.containers u
      let c' := (f.tick w₂).2.outside.containers u
      (∀ m m' config, (f.host.fresh w₁).1 = .ok m → (f.host.fresh w₂).1 = .ok m' →
        (Http.Config.schema keyPrefix).decoded m {} = .ok config → ∀ item ≠ Http.Item.dialTimeout,
          (∀ raw, m'.get? (item.key keyPrefix) = some raw → Text.blank raw = true) →
          (∀ other ≠ item, m'.get? (Http.Item.key keyPrefix other) = m.get? (other.key keyPrefix)) →
          (f.tick w₂).1 = .ok 0 ∧ c.config = config ∧ c'.config = item.set (item.get {}) config ∧
            (c'.generation = c.generation + 1 ↔ item.get config ≠ item.get {})) ∧
      (∀ m m', (f.host.fresh w₁).1 = .ok m → (f.host.fresh w₂).1 = .ok m' →
        (∀ item, m.number? (Http.Item.type item) (item.key keyPrefix) =
          m'.number? item.type (item.key keyPrefix)) → c' = c) ∧
      ∀ d d', w.store.registry.revision = none → f.read o w.store.path = .ok d.text.toUTF8 →
        f.read o' w.store.path = .ok d'.text.toUTF8 →
        EnvText.Edited (Http.Config.schema keyPrefix).keys d d' → c' = c := by
  obtain ⟨hrounds, settings, hstore⟩ := h.after rounds
  refine ⟨fun o => ?_, fun o o' => ?_⟩
  · intro w₁ c c'
    have hw₁ := hrounds.amid o
    obtain ⟨hreplaced, hkept⟩ := hw₁.replaced_iff
    refine ⟨hw₁.clientTick, hreplaced, hkept, fun m new hm hnew item hblank => ?_⟩
    have hdefault := Http.get_of_gone hnew (Settings.number?_of_blank (t := item.type) hblank)
    have htook := (hw₁.took hm hnew).2
    have hconfig : c'.config = new := htook.config
    rw [hconfig]
    refine ⟨hdefault, fun hdiffers => htook.replaced fun hsame => ?_⟩
    rw [hsame] at hdefault
    exact hdiffers hdefault
  · intro w₁ w₂ c c'
    have hw₁ := hrounds.amid o
    have hw₂ := (hw₁.clientTick.serves hw₁).1.amid o'
    have hsame : ∀ m m', (f.host.fresh w₁).1 = .ok m → (f.host.fresh w₂).1 = .ok m' →
        (∀ item, m.number? (Http.Item.type item) (item.key keyPrefix) =
          m'.number? item.type (item.key keyPrefix)) → c' = c := by
      intro m m' hm hm' hnumbers
      refine hw₂.kept fun m'' new hm'' hnew => ?_
      obtain rfl := Outcome.ok.inj (hm'.symm.trans hm'')
      have hbefore := (Http.decoded_congr hnumbers).mpr hnew
      exact (hw₁.took hm hbefore).2.config.symm
    refine ⟨?_, hsame, ?_⟩
    · intro m m' config hm hm' hconfig item hdial hblank hothers
      have hgone := Settings.number?_of_blank (t := item.type) hblank
      have hnumbers : ∀ other ≠ item, m'.number? (Http.Item.type other) (other.key keyPrefix) =
          m.number? other.type (other.key keyPrefix) := by
        intro other hne
        rw [Settings.number?_eq, Settings.number?_eq, hothers other hne]
      have hnew := Http.decoded_without hconfig hdial hgone hnumbers
      have hbefore : c.config = config := (hw₁.took hm hconfig).2.config
      obtain ⟨hresult, htook⟩ := hw₂.took hm' hnew
      refine ⟨hresult, hbefore, htook.config, ?_⟩
      rw [htook.generation_iff]
      change _ ≠ c.config ↔ _
      rw [hbefore, Ne, Http.Item.set_eq_self]
    · intro d d' hrevision hread hread' hedited
      obtain ⟨settings', hstore'⟩ := (hw₁.clientTick.serves hw₁).2
      have hfirst : w₁.store = { w.store with settings } := hstore
      have hsecond : w₂.store = { w.store with settings := settings' } := by
        refine hstore'.trans ?_
        rw [hfirst]
      have hfresh : (f.host.fresh w₁).1 = .ok d.settings := by
        apply Loader.fresh_document
        · rw [hfirst]
          exact hrevision
        · rw [hfirst]
          exact hread
      have hfresh' : (f.host.fresh w₂).1 = .ok d'.settings := by
        apply Loader.fresh_document
        · rw [hsecond]
          exact hrevision
        · rw [hsecond]
          exact hread'
      exact hsame _ _ hfresh hfresh' fun item => hedited.number?_eq (item.key_mem_keys keyPrefix)

/-! ### A client with three files -/

abbrev Solo : Vocabulary := ⟨Empty, Empty, Unit, Empty⟩

namespace Solo

def fleet : Clients Solo (Except FileFault ByteArray) where
  read := fun file _ => file
  environment := fun _ => none
  revise := nofun
  callbacks := fun _ => Http.callbacks (World.fetch (Http.Config.schema "A") {})
  hook := nofun
  handle := nofun
  note := fun _ v => v

def start : ClientWorld Solo (Except FileFault ByteArray) where
  store := { path := "/f", registry := { updaters := [()] } }
  outside := { containers := fun _ => Container.fresh "http" {} {}, around := .error .notFound }

theorem isKey_dial : EnvText.IsKey "A_HTTP_DIAL_TIMEOUT".toList := by
  decide

def dial (value : String) (quoting : EnvText.Quoting)
    (fits : ∀ c ∈ value.toList, quoting.admits c = true) : EnvText.Assignment where
  key := "A_HTTP_DIAL_TIMEOUT"
  value := value
  quoting := quoting
  isKey := isKey_dial
  fits := fits
  firm := fun _ _ => rfl

def idle : EnvText.Line := .assignment
  { key := "A_HTTP_IDLE_TIMEOUT"
    value := "60"
    quoting := .bare
    isKey := by decide
    fits := List.all_eq_true.mp rfl
    firm := fun _ _ => rfl }

def plain : EnvText.Assignment := dial "5" .bare (List.all_eq_true.mp rfl)

def signed : EnvText.Assignment := dial "+05" .double fun _ _ => rfl

def padded : EnvText.Assignment := dial " +05" .double fun _ _ => rfl

def full : EnvText.Document := [.assignment plain, idle]

/-- The lines of `full` in another order, with a remark and with a number in other words. -/
def respelled : EnvText.Document :=
  [.comment .none "note".toList (by decide), idle, .assignment padded]

def short : EnvText.Document := [.assignment plain]

theorem serves : fleet.Serves () "A" start :=
  ⟨rfl, ⟨nofun, nofun, fun _ _ => rfl⟩, rfl, rfl⟩

theorem edited : EnvText.Edited (Http.Config.schema "A").keys full respelled := by
  have horder : EnvText.Edit (Http.Config.schema "A").keys full [idle, .assignment plain] := by
    refine .order fun e he e' he' => ?_
    obtain rfl := Option.some.inj he
    obtain rfl := Option.some.inj he'
    decide
  have hspelling : EnvText.Edit (Http.Config.schema "A").keys
      [.assignment plain] [.assignment signed] :=
    .spelling false true 0 1 5 rfl (by decide) (by decide)
  have hblanks : EnvText.Edit (Http.Config.schema "A").keys
      [.assignment signed] [.assignment padded] :=
    .blanks [' '] [] rfl rfl rfl (by decide)
  have hremark : EnvText.Edit (Http.Config.schema "A").keys
      [] [.comment .none "note".toList (by decide)] :=
    .unrelated nofun
  refine .trans _ _ _ (.rel _ _ horder) ?_
  refine .trans _ _ _ (.rel _ _ (.inside [idle] [] hspelling)) ?_
  refine .trans _ _ _ (.rel _ _ (.inside [idle] [] hblanks)) ?_
  exact .rel _ _ (.inside [] [idle, .assignment padded] hremark)

theorem fresh_after (rounds : List (Except FileFault ByteArray)) (d : EnvText.Document) :
    (fleet.host.fresh ((fleet.after start rounds).amid (.ok d.text.toUTF8))).1 =
      .ok d.settings := by
  obtain ⟨-, settings, hstore⟩ := serves.after rounds
  refine Loader.fresh_document ?_ rfl
  change (fleet.after start rounds).store.registry.revision = none
  rw [hstore]
  rfl

theorem blank_short_idle (raw : String)
    (h : short.settings.get? (Http.Item.idleTimeout.key "A") = some raw) :
    Text.blank raw = true := by
  have hnone : short.settings.get? (Http.Item.idleTimeout.key "A") = none := rfl
  rw [hnone] at h
  cases h

theorem get?_short {item : Http.Item} (h : item ≠ .idleTimeout) :
    short.settings.get? (item.key "A") = full.settings.get? (item.key "A") := by
  cases item with
  | idleTimeout => exact absurd rfl h
  | dialTimeout | keepAlive | maxIdlePerHost | requestTimeout => rfl

theorem decoded_full : (Http.Config.schema "A").decoded full.settings {} =
    .ok { dialTimeout := 5, idleTimeout := 60 } := rfl

end Solo

/-- The client is replaced for a file with another number and for one without an optional number,
but neither for a missing file nor for one that is only edited. -/
theorem client_replaced_iff_solo :
    let file (d : EnvText.Document) : Except FileFault ByteArray := .ok d.text.toUTF8
    let client rounds := (Solo.fleet.after Solo.start rounds).outside.containers ()
    client [.error .notFound] = Solo.start.outside.containers () ∧
      (client [.error .notFound, file Solo.full]).generation = 2 ∧
      client [.error .notFound, file Solo.full, file Solo.respelled] =
        client [.error .notFound, file Solo.full] ∧
      (client [.error .notFound, file Solo.full, file Solo.short]).generation = 3 ∧
      (client [.error .notFound, file Solo.full, file Solo.short]).config =
        { dialTimeout := 5, idleTimeout := 90 } := by
  intro file client
  have hmissing : client [.error .notFound] = Solo.start.outside.containers () := by
    obtain ⟨-, hiff, hkept, -⟩ := (client_replaced_iff Solo.fleet () "A" Solo.start Solo.serves []).1
      (.error .notFound)
    refine hkept fun hgeneration => ?_
    obtain ⟨m, new, hm, -⟩ := hiff.mp hgeneration
    cases hm
  obtain ⟨hround, hrounds⟩ :=
    client_replaced_iff Solo.fleet () "A" Solo.start Solo.serves [.error .notFound]
  have hfull : (client [.error .notFound, file Solo.full]).generation =
      (client [.error .notFound]).generation + 1 := by
    refine (hround (file Solo.full)).2.1.mpr
      ⟨_, _, Solo.fresh_after [.error .notFound] Solo.full, Solo.decoded_full, ?_⟩
    change _ ≠ (client [.error .notFound]).config
    rw [hmissing]
    decide
  have hrespelled := (hrounds (file Solo.full) (file Solo.respelled)).2.2
    Solo.full Solo.respelled rfl rfl rfl Solo.edited
  obtain ⟨-, -, hconfig, hshort⟩ := (hrounds (file Solo.full) (file Solo.short)).1 _ _ _
    (Solo.fresh_after [.error .notFound] Solo.full)
    (Solo.fresh_after [.error .notFound, file Solo.full] Solo.short) Solo.decoded_full
    .idleTimeout (by decide) Solo.blank_short_idle fun _ => Solo.get?_short
  have hshort : (client [.error .notFound, file Solo.full, file Solo.short]).generation =
      (client [.error .notFound, file Solo.full]).generation + 1 := hshort.mpr (by decide)
  rw [hmissing] at hfull
  exact ⟨hmissing, hfull, hrespelled, hshort.trans (congrArg (· + 1) hfull), hconfig⟩

end Fleet

end LiveConfig
