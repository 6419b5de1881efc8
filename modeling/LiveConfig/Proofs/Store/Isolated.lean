import LiveConfig.Proofs.Store.SharedLock
import LiveConfig.Proofs.Store.Uninterrupted
/-!
Ticks of a shared store are isolated, and settings never go back in time.

The lock of the store is held from the read of a load to its install, so that no thread installs
what another one has overtaken. It is held over a whole tick as well, so that the callbacks of the
tick find what its own load installed, unless they load themselves.
-/

set_option autoImplicit false

namespace LiveConfig

variable {V : Vocabulary} {σ : Type}

/-! ### What was seen -/

namespace StoreEvent

def install? : StoreEvent → Option (Nat × Settings)
  | installed _ _ _ version m => some (version, m)
  | _ => none

def installOf? (i n : Nat) : StoreEvent → Option (Nat × Settings)
  | installed thread call _ version m =>
      if thread = i ∧ call = n then some (version, m) else none
  | _ => none

def isWithin (i n : Nat) : StoreEvent → Bool
  | installed thread _ outer _ _ => thread == i && outer.contains n
  | _ => false

theorem installOf?_of_none {e : StoreEvent} (h : e.install? = none) (i n : Nat) :
    e.installOf? i n = none := by
  cases e with
  | installed => cases h
  | looked | returned => rfl

end StoreEvent

def installs (events : List StoreEvent) : List (Nat × Settings) :=
  events.filterMap StoreEvent.install?

def installsOf (events : List StoreEvent) (i n : Nat) : List (Nat × Settings) :=
  events.filterMap (StoreEvent.installOf? i n)

/-- A look finds what the load of the call installed, unless callbacks of the call have loaded. -/
def Isolated (events : List StoreEvent) : Prop :=
  ∀ before i n shown rest, events = before ++ .looked i n shown :: rest →
    ∃ version m, installsOf before i n = [(version, m)] ∧
      ((∀ e ∈ before, e.isWithin i n = false) → shown = some m)

theorem isolated_concat {events : List StoreEvent} {e : StoreEvent} (h : Isolated events)
    (he : ∀ i n shown, e = .looked i n shown → ∃ version m, installsOf events i n = [(version, m)] ∧
      ((∀ e ∈ events, e.isWithin i n = false) → shown = some m)) : Isolated (events ++ [e]) := by
  intro before i n shown rest heq
  rcases List.eq_nil_or_concat rest with rfl | ⟨rest, last, rfl⟩
  · obtain ⟨rfl, hlast⟩ := List.append_inj' heq rfl
    exact he i n shown (List.cons.inj hlast).1
  · have hsplit : events ++ [e] = (before ++ .looked i n shown :: rest) ++ [last] := by
      simpa using heq
    exact h before i n shown rest (List.append_inj' hsplit rfl).1

/-- The settings that some revision, or none, makes of the file. -/
def Loader.Yields (l : Loader V σ) (path : String) (outside : σ) (m : Settings) : Prop :=
  ∃ m₀ r, loadContent l.environment path (l.read outside path) = .ok m₀ ∧
    ∀ w, (l.revised r m₀ w).1 = .ok m

namespace SharedStore

variable {l : Loader V σ} {s : SharedStore V σ}

/-! ### Versions and settings -/

/-- What a call has read or is about to install is not older than anything installed, and was made
of the file in its version. -/
def Fits (l : Loader V σ) (path : String) (history : List σ) (versions : List Nat) :
    CallStage V → Prop
  | .revising version m => (∀ v ∈ versions, v ≤ version) ∧ ∃ outside,
      history[version]? = some outside ∧
        loadContent l.environment path (l.read outside path) = .ok m
  | .installing version m => (∀ v ∈ versions, v ≤ version) ∧ ∃ outside,
      history[version]? = some outside ∧ l.Yields path outside m
  | _ => True

theorem fits_of_early {path : String} {history : List σ} {versions : List Nat}
    {stage : CallStage V} (h : stage.early = false) : Fits l path history versions stage := by
  cases stage with
  | waiting | reading | revising | installing => cases h
  | installed | running | calling | reporting | refused | leaving => trivial

def versions (s : SharedStore V σ) : List Nat := (installs s.events).map (·.1)

/-- What holds of a call of a thread. Once its load is done and as long as its callbacks have not
loaded, the settings in force are its own. -/
structure Kept (l : Loader V σ) (s : SharedStore V σ) (i : Nat) (c : StoreCall V) : Prop where
  fits : Fits l s.world.store.path s.history s.versions c.stage
  early : c.stage.early = true → installsOf s.events i c.number = []
  dispatching : c.stage.dispatches = true → ∃ version m,
    installsOf s.events i c.number = [(version, m)] ∧
      ((∀ e ∈ s.events, e.isWithin i c.number = false) → s.world.store.settings = some m)

/-- What holds of all that was seen, where `first` were the settings at first. -/
structure Recorded (l : Loader V σ) (first : Option Settings) (s : SharedStore V σ) : Prop where
  ascending : s.versions.Pairwise (· ≤ ·)
  yields : ∀ version m, (version, m) ∈ installs s.events → ∃ outside,
    s.history[version]? = some outside ∧ l.Yields s.world.store.path outside m
  once : ∀ i n, (installsOf s.events i n).length ≤ 1
  fresh : ∀ i n, s.numbers ≤ n → installsOf s.events i n = []
  last : s.world.store.settings = ((installs s.events).getLast?.map (·.2)).or first
  isolated : Isolated s.events

structure Sound (l : Loader V σ) (first : Option Settings) (s : SharedStore V σ) : Prop where
  locked : Locked s
  kept : ∀ i, ∀ c ∈ s.calls i, Kept l s i c
  recorded : Recorded l first s

structure Calm (s s' : SharedStore V σ) : Prop where
  path : s'.world.store.path = s.world.store.path
  settings : s'.world.store.settings = s.world.store.settings
  history : s.history <+: s'.history
  numbers : s.numbers ≤ s'.numbers
  events : ∃ more, s'.events = s.events ++ more ∧ ∀ e ∈ more, e.install? = none

section Steps

variable {s' : SharedStore V σ} {i : Nat} {c : StoreCall V} {calls outer : List (StoreCall V)}
  {first : Option Settings}

namespace Calm

theorem installs_eq (h : Calm s s') : installs s'.events = installs s.events := by
  obtain ⟨more, hevents, hnone⟩ := h.events
  rw [hevents, installs, List.filterMap_append, List.filterMap_eq_nil_iff.mpr hnone,
    List.append_nil]
  rfl

theorem installsOf_eq (h : Calm s s') (i n : Nat) :
    installsOf s'.events i n = installsOf s.events i n := by
  obtain ⟨more, hevents, hnone⟩ := h.events
  rw [hevents, installsOf, List.filterMap_append, List.filterMap_eq_nil_iff.mpr
    fun e he => StoreEvent.installOf?_of_none (hnone e he) i n, List.append_nil]
  rfl

theorem versions_eq (h : Calm s s') : s'.versions = s.versions := by
  rw [versions, h.installs_eq, versions]

theorem getElem?_history (h : Calm s s') {v : Nat} {outside : σ}
    (hv : s.history[v]? = some outside) : s'.history[v]? = some outside := by
  obtain ⟨more, hmore⟩ := h.history
  obtain ⟨hlt, -⟩ := List.getElem?_eq_some_iff.mp hv
  rw [← hmore, List.getElem?_append_left hlt, hv]

theorem of_store (hpath : s'.world.store.path = s.world.store.path)
    (hsettings : s'.world.store.settings = s.world.store.settings)
    (hhistory : s.history <+: s'.history) (hnumbers : s.numbers ≤ s'.numbers)
    (hevents : s'.events = s.events) : Calm s s' :=
  ⟨hpath, hsettings, hhistory, hnumbers, [], by rw [hevents, List.append_nil], nofun⟩

end Calm

theorem Kept.calm (h : Kept l s i c) (hcalm : Calm s s') : Kept l s' i c := by
  obtain ⟨hfits, hearly, hdispatching⟩ := h
  refine ⟨?_, ?_, ?_⟩
  · rw [hcalm.path, hcalm.versions_eq]
    cases hstage : c.stage with
    | revising version m | installing version m =>
        rw [hstage] at hfits
        obtain ⟨hle, outside, houtside, hread⟩ := hfits
        exact ⟨hle, outside, hcalm.getElem?_history houtside, hread⟩
    | waiting | reading | installed | running | calling | reporting | refused | leaving =>
        trivial
  · rw [hcalm.installsOf_eq]
    exact hearly
  · intro hdispatches
    obtain ⟨version, m, hown, hsettings⟩ := hdispatching hdispatches
    refine ⟨version, m, (hcalm.installsOf_eq i c.number).trans hown, fun hwithin => ?_⟩
    obtain ⟨more, hevents, -⟩ := hcalm.events
    rw [hcalm.settings]
    exact hsettings fun e he => hwithin e (hevents ▸ List.mem_append_left more he)

theorem Recorded.calm (h : Recorded l first s) (hcalm : Calm s s')
    (hisolated : Isolated s'.events) : Recorded l first s' where
  ascending := hcalm.versions_eq ▸ h.ascending
  yields := by
    rw [hcalm.installs_eq, hcalm.path]
    intro version m hm
    obtain ⟨outside, houtside, hyields⟩ := h.yields version m hm
    exact ⟨outside, hcalm.getElem?_history houtside, hyields⟩
  once := fun i n => hcalm.installsOf_eq i n ▸ h.once i n
  fresh := fun i n hn =>
    (hcalm.installsOf_eq i n).trans (h.fresh i n (Nat.le_trans hcalm.numbers hn))
  last := by
    rw [hcalm.installs_eq, hcalm.settings]
    exact h.last
  isolated := hisolated

theorem Recorded.le_version (h : Recorded l first s) {v : Nat} (hv : v ∈ s.versions) :
    v ≤ s.version := by
  obtain ⟨⟨version, m⟩, hm, rfl⟩ := List.mem_map.mp hv
  obtain ⟨outside, houtside, -⟩ := h.yields version m hm
  obtain ⟨hlt, -⟩ := List.getElem?_eq_some_iff.mp houtside
  rw [history, List.length_append, List.length_singleton] at hlt
  exact Nat.le_of_lt_succ hlt

theorem Kept.onward (h : Kept l s i c) (hrecorded : Recorded l first s) {next : CallStage V}
    (hnext : c.stage.Onward l s.world s.version next) : Kept l s i { c with stage := next } := by
  obtain ⟨number, ticks, stage⟩ := c
  cases hnext with
  | stayed => exact h
  | read hread =>
      have hcurrent : s.history[s.version]? = some s.world.outside := List.getElem?_concat_length ..
      exact ⟨⟨fun v hv => hrecorded.le_version hv, _, hcurrent, hread⟩, fun _ => h.early rfl, nofun⟩
  | revised hrevised =>
      obtain ⟨hle, outside, houtside, hread⟩ := h.fits
      exact ⟨⟨hle, outside, houtside, _, _, hread, hrevised⟩, fun _ => h.early rfl, nofun⟩
  | refused => exact ⟨trivial, nofun, nofun⟩
  | left => exact ⟨trivial, nofun, nofun⟩
  | dispatched hstage hnext =>
      have hearly := CallStage.early_of_dispatches hnext
      refine ⟨fits_of_early hearly, fun htrue => ?_, fun _ => h.dispatching hstage⟩
      cases hearly.symm.trans htrue

theorem Sound.placed (h : Sound l first s) (hlocked : Locked s') (hcalm : Calm s s')
    (hcalls : s'.calls = Function.update s.calls i calls) (hkept : ∀ c ∈ calls, Kept l s i c)
    (hisolated : Isolated s'.events) : Sound l first s' := by
  refine ⟨hlocked, ?_, h.recorded.calm hcalm hisolated⟩
  rw [hcalls]
  exact (Function.forall_update_iff s.calls fun j calls => ∀ c ∈ calls, Kept l s' j c).mpr
    ⟨fun c hc => (hkept c hc).calm hcalm, fun j _ c hc => (h.kept j c hc).calm hcalm⟩

theorem Sound.calm (h : Sound l first s) (hlocked : Locked s') (hcalm : Calm s s')
    (hcalls : s'.calls = s.calls) (hisolated : Isolated s'.events) : Sound l first s' :=
  h.placed (i := 0) hlocked hcalm (by rw [hcalls, Function.update_eq_self]) (h.kept 0) hisolated

theorem installs_concat (events : List StoreEvent) (i n : Nat) (around : List Nat) (version : Nat)
    (m : Settings) : installs (events ++ [.installed i n around version m]) =
      installs events ++ [(version, m)] := by
  simp [installs, StoreEvent.install?]

theorem installsOf_concat (events : List StoreEvent) (i n : Nat) (around : List Nat)
    (version : Nat) (m : Settings) :
    installsOf (events ++ [.installed i n around version m]) i n =
      installsOf events i n ++ [(version, m)] := by
  simp [installsOf, StoreEvent.installOf?]

theorem installsOf_concat_other (events : List StoreEvent) {i j n k : Nat} (around : List Nat)
    (version : Nat) (m : Settings) (hne : ¬ (i = j ∧ n = k)) :
    installsOf (events ++ [.installed i n around version m]) j k = installsOf events j k := by
  simp [installsOf, StoreEvent.installOf?, hne]

/-- The innermost call of a thread installs what it has made of the file. -/
theorem Kept.install (h : Sound l first s) {version : Nat} {m : Settings}
    (hcalls : s.calls i = c :: outer) (hstage : c.stage = .installing version m) (j : Nat) :
    ∀ c' ∈ (s.install i c outer version m).calls j,
      Kept l (s.install i c outer version m) j c' := by
  have hc : c ∈ s.calls i := hcalls ▸ List.mem_cons_self
  have hearly := (h.kept i c hc).early (by rw [hstage]; rfl)
  have hqueued := hcalls ▸ h.locked i
  revert j
  refine (Function.forall_update_iff s.calls fun j calls => ∀ c' ∈ calls,
    Kept l (s.install i c outer version m) j c').mpr ⟨fun c' hc' => ?_, fun j hj c' hc' => ?_⟩
  · rcases List.mem_cons.mp hc' with rfl | hc'
    · refine ⟨trivial, nofun, fun _ => ⟨version, m, ?_, fun _ => rfl⟩⟩
      have hown := installsOf_concat s.events i c.number (outer.map (·.number)) version m
      rwa [hearly, List.nil_append] at hown
    · -- A call further out: one of its callbacks has made the call that installs.
      have hmem : c'.number ∈ outer.map (·.number) := List.mem_map_of_mem hc'
      have hlt : c.number > c'.number := (List.pairwise_cons.mp hqueued.ordered).1 _ hmem
      have hsettled := CallStage.early_of_callback (hqueued.resting c' hc')
      refine ⟨fits_of_early hsettled, fun htrue => ?_, fun hdispatches => ?_⟩
      · cases hsettled.symm.trans htrue
      · have hkept := h.kept i c' (hcalls ▸ List.mem_cons_of_mem c hc')
        obtain ⟨v, m', hown, -⟩ := hkept.dispatching hdispatches
        refine ⟨v, m', ?_, fun hwithin => ?_⟩
        · exact (installsOf_concat_other s.events _ version m (by omega)).trans hown
        · have hlast := hwithin _ (List.mem_append_right s.events List.mem_cons_self)
          simp [StoreEvent.isWithin, hmem] at hlast
  · -- A call of another thread has to wait for the lock.
    have hwaiting : c'.stage = .waiting := by
      refine CallStage.eq_waiting (Bool.eq_false_iff.mpr fun hinside => hj ?_)
      exact h.locked.exclusive hc' hinside hc (by rw [hstage]; rfl)
    have hkept := h.kept j c' hc'
    refine ⟨by rw [hwaiting]; trivial, fun htrue => ?_, fun hdispatches => ?_⟩
    · exact (installsOf_concat_other s.events _ version m (fun heq => hj heq.1.symm)).trans
        (hkept.early htrue)
    · rw [hwaiting] at hdispatches
      cases hdispatches

theorem Recorded.install (h : Sound l first s) {version : Nat} {m : Settings}
    (hcalls : s.calls i = c :: outer) (hstage : c.stage = .installing version m) :
    Recorded l first (s.install i c outer version m) := by
  have hc : c ∈ s.calls i := hcalls ▸ List.mem_cons_self
  obtain ⟨hfits, hearly, -⟩ := h.kept i c hc
  rw [hstage] at hfits hearly
  obtain ⟨hle, outside, houtside, hyields⟩ := hfits
  have hinstalls := installs_concat s.events i c.number (outer.map (·.number)) version m
  have hversions : (s.install i c outer version m).versions = s.versions ++ [version] := by
    rw [versions, SharedStore.install, hinstalls, List.map_append]
    rfl
  have hown : installsOf (s.install i c outer version m).events i c.number = [(version, m)] := by
    have hconcat := installsOf_concat s.events i c.number (outer.map (·.number)) version m
    rwa [hearly rfl] at hconcat
  have hother : ∀ j k, ¬(i = j ∧ c.number = k) →
      installsOf (s.install i c outer version m).events j k = installsOf s.events j k :=
    fun j k hne => installsOf_concat_other s.events _ version m hne
  have hascending : (s.install i c outer version m).versions.Pairwise (· ≤ ·) := by
    rw [hversions, List.pairwise_append]
    refine ⟨h.recorded.ascending, List.pairwise_singleton _ _, fun v hv v' hv' => ?_⟩
    rw [List.mem_singleton.mp hv']
    exact hle v hv
  have hyielded : ∀ v m', (v, m') ∈ installs (s.install i c outer version m).events →
      ∃ outside, s.history[v]? = some outside ∧ l.Yields s.world.store.path outside m' := by
    intro v m' hm
    rcases List.mem_append.mp (hinstalls ▸ hm) with hm | hm
    · exact h.recorded.yields v m' hm
    · obtain ⟨rfl, rfl⟩ := Prod.mk.inj (List.mem_singleton.mp hm)
      exact ⟨outside, houtside, hyields⟩
  have honce : ∀ j k, (installsOf (s.install i c outer version m).events j k).length ≤ 1 := by
    intro j k
    by_cases heq : i = j ∧ c.number = k
    · obtain ⟨rfl, rfl⟩ := heq
      exact Nat.le_of_eq (congrArg List.length hown)
    · rw [hother j k heq]
      exact h.recorded.once j k
  have hfresh : ∀ j k, s.numbers ≤ k →
      installsOf (s.install i c outer version m).events j k = [] := by
    intro j k hk
    have hbelow : c.number < s.numbers := (h.locked i).below c hc
    exact (hother j k (by omega)).trans (h.recorded.fresh j k hk)
  have hlast : some m = ((installs (s.install i c outer version m).events).getLast?.map (·.2)).or
      first := by
    rw [SharedStore.install, hinstalls, List.getLast?_concat]
    rfl
  have hisolated : Isolated (s.install i c outer version m).events :=
    isolated_concat h.recorded.isolated fun _ _ _ heq => by cases heq
  exact ⟨hascending, hyielded, honce, hfresh, hlast, hisolated⟩

theorem Sound.step (h : Sound l first s) (hstep : Stepped l s s') : Sound l first s' := by
  have hlocked := h.locked.step hstep
  have hisolated := h.recorded.isolated
  have hrefl : s.history <+: s.history := List.prefix_refl s.history
  cases hstep with
  | stayed => exact h
  | changed outside =>
      have hhistory : s.history <+: s.history ++ [outside] := List.prefix_append _ _
      exact h.calm hlocked (.of_store rfl rfl hhistory (Nat.le_refl _) rfl) rfl hisolated
  | registered r =>
      have hpath := s.world.store.register_path r
      have hsettings := s.world.store.register_settings r
      exact h.calm hlocked (.of_store hpath hsettings hrefl (Nat.le_refl _) rfl) rfl hisolated
  | @called i ticks hfree =>
      have hnew : Kept l s i ⟨s.numbers, ticks, .waiting⟩ :=
        ⟨trivial, fun _ => h.recorded.fresh i s.numbers (Nat.le_refl _), nofun⟩
      exact h.placed hlocked (.of_store rfl rfl hrefl (Nat.le_succ _) rfl) (i := i) rfl
        (List.forall_mem_cons.mpr ⟨hnew, h.kept i⟩) hisolated
  | @taken i c outer lock hcalls hstage htake =>
      obtain ⟨hinner, houter⟩ := List.forall_mem_cons.mp (hcalls ▸ h.kept i)
      have hreading : Kept l s i { c with stage := .reading } :=
        ⟨trivial, fun _ => hinner.early (by rw [hstage]; rfl), nofun⟩
      exact h.placed hlocked (.of_store rfl rfl hrefl (Nat.le_refl _) rfl) (i := i) rfl
        (List.forall_mem_cons.mpr ⟨hreading, houter⟩) hisolated
  | @onward i c outer next hcalls hnext =>
      obtain ⟨hinner, houter⟩ := List.forall_mem_cons.mp (hcalls ▸ h.kept i)
      have hmoved : Kept l s i { c with stage := next } := hinner.onward h.recorded hnext
      exact h.placed hlocked (.of_store rfl rfl hrefl (Nat.le_refl _) rfl) (i := i) rfl
        (List.forall_mem_cons.mpr ⟨hmoved, houter⟩) hisolated
  | @looked i c outer hcalls hdispatches =>
      have hkept := h.kept i c (hcalls ▸ List.mem_cons_self)
      have hcalm : Calm s { s with
          events := s.events ++ [.looked i c.number s.world.store.settings] } :=
        ⟨rfl, rfl, hrefl, Nat.le_refl _, _, rfl, by simp [StoreEvent.install?]⟩
      refine h.calm hlocked hcalm rfl (isolated_concat hisolated fun j n shown heq => ?_)
      obtain ⟨rfl, rfl, rfl⟩ := StoreEvent.looked.inj heq
      exact hkept.dispatching hdispatches
  | installed hcalls hstage =>
      exact ⟨hlocked, Kept.install h hcalls hstage, Recorded.install h hcalls hstage⟩
  | @left i result c outer hcalls hstage =>
      obtain ⟨-, houter⟩ := List.forall_mem_cons.mp (hcalls ▸ h.kept i)
      have hcalm : Calm s { s.put i outer with
          lock := s.lock.giveBack
          events := s.events ++ [.returned i c.number result] } :=
        ⟨rfl, rfl, hrefl, Nat.le_refl _, _, rfl, by simp [StoreEvent.install?]⟩
      exact h.placed hlocked hcalm (i := i) rfl houter (isolated_concat hisolated nofun)

end Steps

theorem Sound.start (l : Loader V σ) (w : World V σ) :
    Sound l w.store.settings (SharedStore.start w) where
  locked := .start w
  kept := fun _ => nofun
  recorded := ⟨.nil, nofun, fun _ _ => Nat.zero_le 1, fun _ _ _ => rfl, rfl, by
    intro before i n shown rest heq
    simp [SharedStore.start] at heq⟩

theorem Sound.after (hl : l.Pure) (w : World V σ) (moves : List (StoreMove V σ)) :
    Sound l w.store.settings ((SharedStore.start w).after l moves) :=
  after_induction l (fun s m h => h.step (stepped hl s m)) (.start l w) moves

theorem Stepped.path {s' : SharedStore V σ} (h : Stepped l s s') :
    s'.world.store.path = s.world.store.path := by
  cases h with
  | registered r => exact s.world.store.register_path r
  | stayed | changed | called | taken | onward | looked | installed | left => rfl

theorem path_after (hl : l.Pure) (s : SharedStore V σ) (moves : List (StoreMove V σ)) :
    (s.after l moves).world.store.path = s.world.store.path :=
  after_induction l (P := fun s' => s'.world.store.path = s.world.store.path)
    (fun s₁ m hpath => (stepped hl s₁ m).path.trans hpath) rfl moves

/-- Whatever threads do with a store and others with its file, and in whatever order, as long as
revisions act on settings alone: settings are installed from versions that never descend, each made
of the file as it was in its version, and the last ones are in force. In a tick every callback finds
what the load of the tick has installed, unless a callback of the tick has loaded before. No two
threads have the lock at once, and a call that nobody interrupts answers as a load or a tick of the
store. -/
theorem ticks_isolated (p : Scripts V σ) (hp : p.toLoader.Pure) (w : World V σ)
    (moves : List (StoreMove V σ)) :
    let s := (start w).after p.toLoader moves
    ((installs s.events).map (·.1)).Pairwise (· ≤ ·) ∧
    (∀ version m, (version, m) ∈ installs s.events → ∃ outside,
      s.history[version]? = some outside ∧ p.Yields w.store.path outside m) ∧
    s.world.store.settings = ((installs s.events).getLast?.map (·.2)).or w.store.settings ∧
    (∀ before i n shown rest, s.events = before ++ .looked i n shown :: rest →
      ∃ version m, installsOf before i n = [(version, m)] ∧
        installsOf s.events i n = [(version, m)] ∧
        ((∀ e ∈ before, e.isWithin i n = false) → shown = some m)) ∧
    (∀ i j, ∀ c ∈ s.calls i, ∀ c' ∈ s.calls j,
      c.stage.inside = true → c'.stage.inside = true → i = j) ∧
    ∀ i taken, s.isFree i = true → s.lock.take? i = some taken →
      Answers p.toLoader s i (.loaded (p.load s.world).1) (p.load s.world).2 ∧
      Answers p.toLoader s i (.ticked (p.host.reload s.world).1) (p.host.reload s.world).2 := by
  intro s
  have hsound := Sound.after hp w moves
  have hpath : s.world.store.path = w.store.path := path_after hp (start w) moves
  have hyields : ∀ version m, (version, m) ∈ installs s.events → ∃ outside,
      s.history[version]? = some outside ∧ p.Yields w.store.path outside m := by
    rw [← hpath]
    exact hsound.recorded.yields
  have hlooks : ∀ before i n shown rest, s.events = before ++ .looked i n shown :: rest →
      ∃ version m, installsOf before i n = [(version, m)] ∧
        installsOf s.events i n = [(version, m)] ∧
        ((∀ e ∈ before, e.isWithin i n = false) → shown = some m) := by
    intro before i n shown rest heq
    obtain ⟨version, m, hbefore, hshown⟩ := hsound.recorded.isolated before i n shown rest heq
    have hsplit : installsOf s.events i n =
        installsOf before i n ++ installsOf (.looked i n shown :: rest) i n := by
      rw [heq, installsOf, List.filterMap_append]
      rfl
    -- a call installs at most once, so nothing of it follows the look
    have honce := hsound.recorded.once i n
    rw [hsplit, hbefore, List.length_append, List.length_singleton] at honce
    have hnil : installsOf (.looked i n shown :: rest) i n = [] :=
      List.length_eq_zero_iff.mp (by omega)
    exact ⟨version, m, hbefore, by rw [hsplit, hbefore, hnil, List.append_nil], hshown⟩
  have hexclusive : ∀ i j, ∀ c ∈ s.calls i, ∀ c' ∈ s.calls j,
      c.stage.inside = true → c'.stage.inside = true → i = j :=
    fun i j c hc c' hc' hinside hinside' => hsound.locked.exclusive hc hinside hc' hinside'
  refine ⟨hsound.recorded.ascending, hyields, hsound.recorded.last, hlooks, hexclusive, ?_⟩
  intro i taken hfree htake
  exact ⟨answers_load p.toLoader hfree htake, answers_reload p hfree htake⟩

/-- Stores with one revision and hooks that are numbers. -/
private abbrev Hooked : Vocabulary := ⟨Unit, Nat, Empty, Empty⟩

private def hooked : Scripts Hooked String where
  read := fun text _ => .ok text.toUTF8
  environment := fun _ => none
  revise := fun _ m w => (.ok (m.insert "B" "0"), w)
  hook := fun _ => .done (.ok ())
  update := nofun
  nameOf := nofun
  handle := nofun
  note := fun _ => .done ()

private def hookedWorld : World Hooked String :=
  ⟨⟨"/conf", none, ⟨some (), [5], [], [], none⟩, none⟩, "A=1"⟩

/-- The file changes after a tick has read it. Another thread wants to load and has to wait; then
the hook of the tick looks, loads and looks again. -/
private def overtaking : List (StoreMove Hooked String) :=
  [.call 1 true, .go 1, .go 1, .change "A=2", .call 2 false, .go 2] ++
  [.go 1, .go 1, .go 1, .go 1, .look 1] ++
  [.call 1 false, .go 1, .go 1, .go 1, .go 1, .go 1, .go 1, .look 1, .finish 1 .ok, .go 1, .go 1] ++
  [.go 2, .go 2, .go 2, .go 2]

/-- The first look finds the old settings, which the tick has installed although the file was newer
then, and the other thread installs after the tick. -/
theorem ticks_isolated_overtaken :
    let s := (start hookedWorld).after hooked.toLoader overtaking
    (installs s.events).map (fun x => (x.1, x.2.get? "A")) =
        [(0, some "1"), (1, some "2"), (1, some "2")] ∧
      ((installs s.events).map (·.1)).Pairwise (· ≤ ·) ∧
      ∃ m rest, installsOf s.events 1 0 = [(0, m)] ∧
        s.events = s.events.take 1 ++ .looked 1 0 (some m) :: rest := by
  intro s
  have hpure : hooked.Pure := ⟨fun _ m => .ok (m.insert "B" "0"), fun _ _ _ => rfl⟩
  obtain ⟨hascending, -, -, hlooks, -⟩ := ticks_isolated hooked hpure hookedWorld overtaking
  have hfirst : ∃ shown rest, s.events = s.events.take 1 ++ .looked 1 0 shown :: rest :=
    ⟨_, _, rfl⟩
  obtain ⟨shown, rest, heq⟩ := hfirst
  obtain ⟨version, m, -, hown, hshown⟩ := hlooks _ 1 0 shown rest heq
  obtain rfl : version = 0 := by
    have hversion : (installsOf s.events 1 0).map (·.1) = [0] := by decide
    exact (List.cons.inj ((congrArg (List.map (·.1)) hown).symm.trans hversion)).1
  exact ⟨by decide, hascending, m, rest, hown, hshown (by decide) ▸ heq⟩

end SharedStore

end LiveConfig
