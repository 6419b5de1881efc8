import LiveConfig.Proofs.Store.Revised
import LiveConfig.Proofs.Store.Script
import Mathlib.Data.List.Induction
/-!
What a store shows: the file as it was at the last load that succeeded.

A load installs all of its settings or none. So whatever happens to a store and around it, it shows
what the last successful load made of the file, by the revision in force then, and before the first
one it shows nothing.
-/

set_option autoImplicit false

namespace LiveConfig

variable {V : Vocabulary} {σ : Type}

/-! ### Reads -/

namespace Store

def Unloaded (s : Store V) : Prop :=
  s.items = .error .notLoaded ∧ s.keys = .error .notLoaded ∧
    (∀ key, s.get key = .error .notLoaded) ∧
    ∀ (T : Type) (schema : Schema T) (target : T), s.decoded schema target = .error .notLoaded ∧
      s.decodeInto schema target = (target, some .notLoaded)

def Shows (s : Store V) (m : Settings) : Prop :=
  s.items = .ok m ∧ s.keys = .ok m.keys ∧ (∀ key, s.get key = .ok (m.get? key)) ∧
    ∀ (T : Type) (schema : Schema T) (target : T),
      s.decoded schema target = (schema.decoded m target).mapError (.load ∘ .decode) ∧
      s.decodeInto schema target =
        ((schema.decode m target).1, (schema.decode m target).2.map (.load ∘ .decode))

theorem unloaded_of_none {s : Store V} (h : s.settings = none) : s.Unloaded := by
  have hitems : s.items = .error .notLoaded := by simp only [items, h]
  refine ⟨hitems, ?_, ?_, ?_⟩
  · rw [keys, hitems]
    rfl
  · intro key
    rw [get, hitems]
    rfl
  · intro T schema target
    rw [decoded, decodeInto, hitems]
    exact ⟨rfl, rfl⟩

theorem shows_of_some {s : Store V} {m : Settings} (h : s.settings = some m) : s.Shows m := by
  have hitems : s.items = .ok m := by simp only [items, h]
  refine ⟨hitems, ?_, ?_, ?_⟩
  · rw [keys, hitems]
    rfl
  · intro key
    rw [get, hitems]
    rfl
  · intro T schema target
    rw [decoded, decodeInto, hitems]
    refine ⟨?_, rfl⟩
    simp only [Bind.bind, Except.bind]
    cases schema.decoded m target <;> rfl

end Store

/-! ### The last load -/

namespace World

variable (l : Loader V σ)

/-- The world in which the last successful load was begun. -/
def lastLoad? (w : World V σ) (deeds : List (Deed V σ)) : Option (World V σ) :=
  ((w.loads l deeds).filter fun u => (l.load u).1 = .ok ()).getLast?

variable {l} in
theorem act_path (hl : l.Aloof) (w : World V σ) (d : Deed V σ) :
    (w.act l d).store.path = w.store.path := by
  cases d with
  | change outside => rfl
  | register r => exact w.store.register_path r
  | load => exact hl.path_load w

theorem path_of_mem_loads (hl : l.Aloof) {w u : World V σ} {deeds : List (Deed V σ)}
    (h : u ∈ w.loads l deeds) : u.store.path = w.store.path := by
  induction deeds generalizing w with
  | nil => exact absurd h List.not_mem_nil
  | cons d rest ih =>
      cases d with
      | change outside => exact (ih h).trans (w.act_path hl (.change outside))
      | register r => exact (ih h).trans (w.act_path hl (.register r))
      | load =>
          rcases List.mem_cons.mp h with rfl | h
          · rfl
          · exact (ih h).trans (w.act_path hl .load)

theorem lastLoad?_of_ne_load (w : World V σ) (deeds : List (Deed V σ)) (d : Deed V σ)
    (h : d ≠ .load) : w.lastLoad? l (deeds ++ [d]) = w.lastLoad? l deeds := by
  have hloads : (w.after l deeds).loads l [d] = [] := by
    cases d with
    | change outside => rfl
    | register r => rfl
    | load => exact absurd rfl h
  rw [lastLoad?, lastLoad?, loads_append, hloads, List.append_nil]

theorem lastLoad?_load (w : World V σ) (deeds : List (Deed V σ)) :
    w.lastLoad? l (deeds ++ [.load]) = if (l.load (w.after l deeds)).1 = .ok () then
      some (w.after l deeds) else w.lastLoad? l deeds := by
  have hloads : (w.after l deeds).loads l [.load] = [w.after l deeds] := rfl
  rw [lastLoad?, lastLoad?, loads_append, hloads, List.filter_append]
  split
  case isTrue hok => rw [List.filter_cons_of_pos (by simpa using hok), List.filter_nil,
    List.getLast?_concat]
  case isFalse hfailed => rw [List.filter_cons_of_neg (by simpa using hfailed), List.filter_nil,
    List.append_nil]

/-- The settings are those that the last successful load installed. -/
theorem settings_after (hl : l.Aloof) (w : World V σ) (deeds : List (Deed V σ)) :
    (w.after l deeds).store.settings =
      (w.lastLoad? l deeds).elim w.store.settings fun u => (l.load u).2.store.settings := by
  -- the last load stands at the end, so the run is taken apart from there
  induction deeds using List.reverseRecOn with
  | nil => rfl
  | append_singleton deeds d ih =>
      have hstep : w.after l (deeds ++ [d]) = (w.after l deeds).act l d := w.after_append l deeds [d]
      rw [hstep]
      cases d with
      | change outside =>
          rw [lastLoad?_of_ne_load l w deeds (.change outside) nofun, ← ih]
          rfl
      | register r =>
          rw [lastLoad?_of_ne_load l w deeds (.register r) nofun, ← ih]
          exact (w.after l deeds).store.register_settings r
      | load =>
          rw [lastLoad?_load]
          by_cases hok : (l.load (w.after l deeds)).1 = .ok ()
          · rw [if_pos hok]
            rfl
          · rw [if_neg hok, act, (hl.load_of_failed hok).1]
            exact ih

theorem isLoaded_after (hl : l.Aloof) (w : World V σ) (deeds : List (Deed V σ))
    (h : w.store.isLoaded = true) : (w.after l deeds).store.isLoaded = true := by
  rw [Store.isLoaded, settings_after l hl]
  cases hlast : w.lastLoad? l deeds with
  | none => exact h
  | some u =>
      have hmem := List.mem_of_getLast? hlast
      have hok : (l.load u).1 = .ok () := by simpa using (List.mem_filter.mp hmem).2
      obtain ⟨bytes, m, m', -, -, -, hload⟩ := Loader.load_of_ok hok
      rw [Option.elim_some, hload]
      rfl

end World

/-! ### Runs -/

/-- What is done to a store and around it from the outside. -/
inductive StoreRequest (V : Vocabulary) (σ : Type) where
  | deed (d : Deed V σ)
  | reload

namespace Scripts

variable (p : Scripts V σ)

def serve (w : World V σ) : StoreRequest V σ → World V σ
  | .deed d => w.act p.toLoader d
  | .reload => (p.host.reload w).2

/-- All that is done in a run of requests, the deeds of callbacks in their places. -/
def deeds (w : World V σ) : List (StoreRequest V σ) → List (Deed V σ)
  | [] => []
  | .deed d :: rest => d :: deeds (p.serve w (.deed d)) rest
  | .reload :: rest => p.reload.deeds p.toLoader w ++ deeds (p.serve w .reload) rest

theorem foldl_serve (w : World V σ) (requests : List (StoreRequest V σ)) :
    requests.foldl p.serve w = w.after p.toLoader (p.deeds w requests) := by
  induction requests generalizing w with
  | nil => rfl
  | cons r rest ih =>
      rw [List.foldl_cons, ih]
      cases r with
      | deed d => rfl
      | reload =>
          have htick : (p.host.reload w).2 = w.after p.toLoader (p.reload.deeds p.toLoader w) :=
            congrArg Prod.snd (p.run_reload w).symm
          rw [deeds, World.after_append, ← htick]
          rfl

/-- A store that was bound to a file shows at every point of a run what the last successful load
made of the file as it was then, by the revision that was in force, and nothing before the first
one. It never loses its settings again. A load that fails leaves them, and everything else but for
what a revision did that panicked, and the revision is not asked for what cannot be read or parsed.
Callbacks may load the store as well; a revision may do anything else. -/
theorem store_shows_last_load (p : Scripts V σ) (hp : p.toLoader.Aloof) (path : String)
    (outside : σ) (requests : List (StoreRequest V σ)) :
    let l := p.toLoader
    let w : World V σ := ⟨{ path }, outside⟩
    let deeds := p.deeds w requests
    requests.foldl p.serve w = w.after l deeds ∧
    (∀ before, before <+: deeds →
      match w.lastLoad? l before with
      | none => (w.after l before).store.Unloaded
      | some u => ∃ bytes m m', l.read u.outside path = .ok bytes ∧
          EnvText.parseBytes l.environment bytes = .ok m ∧
          (l.revised u.store.registry.revision m u).1 = .ok m' ∧
          (w.after l before).store.Shows m') ∧
    (∀ before more, before <+: more → more <+: deeds → (w.after l before).store.isLoaded = true →
      (w.after l more).store.isLoaded = true) ∧
    (∀ v : World V σ, (l.load v).1 ≠ .ok () →
      (l.load v).2.store.settings = v.store.settings ∧ ((l.load v).2 = v ∨ ∃ r m panic,
        v.store.registry.revision = some r ∧ l.revise r m v = (.error panic, (l.load v).2))) ∧
    ∀ (v : World V σ) (e : LoadError),
      loadContent l.environment v.store.path (l.read v.outside v.store.path) = .error e →
      ∀ revise, { l with revise := revise }.load v = (.error e, v) := by
  intro l w deeds
  refine ⟨p.foldl_serve w requests, ?_, ?_, fun v => hp.load_of_failed,
    fun v e => Loader.load_of_unread⟩
  · intro before _
    have hsettings := World.settings_after l hp w before
    cases hlast : w.lastLoad? l before with
    | none =>
        rw [hlast] at hsettings
        exact Store.unloaded_of_none hsettings
    | some u =>
        have hmem := List.mem_filter.mp (List.mem_of_getLast? hlast)
        have hpath : u.store.path = path := World.path_of_mem_loads l hp hmem.1
        have hok : (l.load u).1 = .ok () := by simpa using hmem.2
        obtain ⟨bytes, m, m', hread, hparse, hrevised, hload⟩ := Loader.load_of_ok hok
        rw [hlast, Option.elim_some, hload] at hsettings
        rw [hpath] at hread
        exact ⟨bytes, m, m', hread, hparse, hrevised, Store.shows_of_some hsettings⟩
  · rintro before more ⟨later, rfl⟩ _ hloaded
    rw [World.after_append]
    exact World.isLoaded_after l hp _ later hloaded

/-- Revisions that go well or panic, and one hook. -/
private abbrev Marked : Vocabulary := ⟨Bool, Unit, Empty, Empty⟩

/-- The file is the text around the store, unless that is empty. A revision registers the hook,
which writes the file and loads it. -/
private def marked : Scripts Marked String where
  read := fun text _ => if text = "" then .error .notFound else .ok text.toUTF8
  environment := fun _ => none
  revise := fun good m w =>
    (if good then .ok (m.insert "MARK" "1") else .error ⟨"marked"⟩,
      { w with store := w.store.addLateHook () })
  hook := fun _ => .change "A=3" (.load fun _ => .done (.ok ()))
  update := nofun
  nameOf := nofun
  handle := nofun
  note := fun _ => .done ()

/-- A load without a file, a tick whose hook loads once more, a load of what is no text of settings,
and a load whose revision panics. -/
private def marking : List (StoreRequest Marked String) :=
  [.deed .load, .deed (.change "A=1\nB=2"), .deed (.register (.revision true)), .reload,
    .deed (.change "="), .deed .load, .deed (.change "A=4"), .deed (.register (.revision false)),
    .deed .load]

theorem store_shows_last_load_marked :
    ∃ m, (marking.foldl marked.serve ⟨{ path := "/conf" }, ""⟩).store.Shows m ∧
      m.get? "A" = some "3" ∧ m.get? "B" = none ∧ m.get? "MARK" = some "1" := by
  have aloof : marked.Aloof := fun _ _ _ => ⟨rfl, rfl⟩
  obtain ⟨hrun, hshows, -⟩ := store_shows_last_load marked aloof "/conf" "" marking
  have hlast := hshows _ (List.prefix_refl _)
  rw [← hrun] at hlast
  generalize hstore : (marking.foldl marked.serve ⟨{ path := "/conf" }, ""⟩).store = store at *
  have hfound : store.get "A" = .ok (some "3") ∧ store.get "B" = .ok none ∧
      store.get "MARK" = .ok (some "1") := by
    rw [← hstore]
    exact ⟨rfl, rfl, rfl⟩
  split at hlast
  · cases hfound.1.symm.trans (hlast.2.2.1 "A")
  · obtain ⟨-, -, m, -, -, -, hshown⟩ := hlast
    have hget := hshown.2.2.1
    exact ⟨m, hshown, Except.ok.inj ((hget "A").symm.trans hfound.1),
      Except.ok.inj ((hget "B").symm.trans hfound.2.1),
      Except.ok.inj ((hget "MARK").symm.trans hfound.2.2)⟩

end Scripts

end LiveConfig
