import LiveConfig.Proofs.Change.Standing
import LiveConfig.Proofs.Service.Confined
/-!
A watched store comes to have what its file has.

While the settings in force are not those of the file, a load is on its way: the watch was told of
the file and did not take it yet, or a burst is pending, or a change is waiting to be answered. What
a burst may drop without a load is a removal, and then the file is not there. So a store that is
quiet has the settings of its file.
-/

set_option autoImplicit false

namespace LiveConfig

variable {V : Vocabulary} {σ : Type}

theorem Loader.read_of_fresh {l : Loader V σ} {w : World V σ} {m : Settings}
    (h : (l.fresh w).1 = .ok m) : ∃ bytes, l.read w.outside w.store.path = .ok bytes := by
  rcases hread : l.read w.outside w.store.path with fault | bytes
  · simp [Loader.fresh, loadContent, hread] at h
  · exact ⟨bytes, rfl⟩

namespace Following

variable {h : Host V σ} {files : Focus σ FileTree} {s : Following V σ}

/-- A load is on its way that reads the file later than now. -/
def Owes (s : Following V σ) : Prop :=
  (∃ watch, s.world.store.watch = some watch ∧
    (watch.pending ≠ none ∨ s.inputs.flatMap watch.heard ≠ [])) ∨
  (∃ c, .changed c ∈ s.outputs) ∨ ∃ c, s.tick = .answering (.changed c)

/-- The settings are in force, or were read to be installed next. -/
def Has (s : Following V σ) (m : Settings) : Prop :=
  match s.tick with
  | .loaded result => result = .ok m
  | _ => s.world.store.settings = some m

/-- What a watched store keeps while it follows its file. -/
structure Tracks (h : Host V σ) (files : Focus σ FileTree) (first : World V σ)
    (started : Watch) (s : Following V σ) : Prop where
  registry : s.world.store.registry = first.store.registry
  path : s.world.store.path = first.store.path
  sound : (files.get s.world.outside).Sound
  keeps : (files.get first.outside).KeepsDirectories (files.get s.world.outside)
  watch : ∃ pending, s.world.store.watch = some { started with pending := pending } ∧
    ((files.get s.world.outside).node? started.name ≠ none →
      ChangeKind.settle (Debounce.kind? pending) (s.inputs.flatMap started.heard) ≠ some .remove)
  current : s.renewed = true → ∀ m, (h.fresh s.world).1 = .ok m → s.Owes ∨ s.Has m

section

variable {first : World V σ} {started : Watch} {hasRuntime : Bool} {debounce : Debounce}
  {w : World V σ} {m : Settings}

theorem there (hc : h.Confined files first.store.registry)
    (hstart : Watch.start hasRuntime (files.get first.outside) first.store.path debounce =
      .ok started)
    (hpath : w.store.path = first.store.path) (hsound : (files.get w.outside).Sound)
    (hkeeps : (files.get first.outside).KeepsDirectories (files.get w.outside))
    (hfresh : (h.fresh w).1 = .ok m) :
    ∃ parent last bytes, parent ++ [last] = started.name ∧
      (files.get w.outside).locate w.store.path = .ok (.entry parent last false) ∧
      (files.get w.outside).read w.store.path = .ok bytes ∧
      (files.get w.outside).node? started.name ≠ none := by
  obtain ⟨bytes, hread⟩ := Loader.read_of_fresh hfresh
  rw [hc.reads] at hread
  obtain ⟨parent, last, node, hlocate, hlookup, -, -⟩ := FileTree.read_cases hsound hread
  have hname := Watch.name_of_locate hstart hkeeps (hpath ▸ hlocate)
  refine ⟨parent, last, bytes, hname, hlocate, hread, ?_⟩
  rw [← hname, ← FileTree.lookup_entry_eq hlookup]
  exact nofun

/-- What would be loaded is the same if the file is the same under the name. -/
theorem fresh_of_sameAt (w w' : World V σ) (hc : h.Confined files first.store.registry)
    (hstart : Watch.start hasRuntime (files.get first.outside) first.store.path debounce =
      .ok started)
    (hstore : w'.store = w.store) (hpath : w.store.path = first.store.path)
    (hregistry : w.store.registry = first.store.registry)
    (hsound : (files.get w'.outside).Sound)
    (hkeeps : (files.get first.outside).KeepsDirectories (files.get w'.outside))
    (hkept : (files.get w'.outside).KeepsDirectories (files.get w.outside))
    (hsame : FileTree.SameAt started.name (files.get w.outside) (files.get w'.outside))
    (hfresh : (h.fresh w').1 = .ok m) : (h.fresh w).1 = .ok m := by
  obtain ⟨parent, last, bytes, hname, hlocate, hread, -⟩ :=
    there hc hstart (hstore ▸ hpath) hsound hkeeps hfresh
  rw [hstore] at hlocate hread
  rw [← hname] at hsame
  have hread' := FileTree.read_of_sameAt hkept hlocate hsame.symm hsound hread
  rw [← hfresh]
  exact (hc.fresh_eq hregistry (congrArg Store.path hstore) (congrArg Store.registry hstore)
    (hread.trans hread'.symm)).symm

/-! ### What one move keeps -/

theorem Tracks.act (lawful : files.Lawful) (hc : h.Confined files first.store.registry)
    (hstart : Watch.start hasRuntime (files.get first.outside) first.store.path debounce =
      .ok started) (ht : Tracks h files first started s) (a : FileAction) :
    Tracks h files first started (s.act files a) := by
  obtain ⟨pending, hwatch, htold⟩ := ht.watch
  rcases hfiles : a.onFiles (files.get s.world.outside) with _ | _
  · simpa only [Following.act, hwatch, hfiles] using ht
  rcases happly : a.apply (files.get s.world.outside) with fault | ⟨t', events⟩
  · simpa only [Following.act, hwatch, hfiles, happly] using ht
  have hreported : a.Reported started (files.get s.world.outside) t'
      (events.flatMap started.told) := FileAction.reported started ht.sound hfiles happly
  have hheard : (s.inputs ++ (events.filterMap started.rawEvent?).map WatchInput.raw).flatMap
      started.heard = s.inputs.flatMap started.heard ++ events.flatMap started.told := by
    rw [List.flatMap_append, started.flatMap_heard]
  have hget : files.get (files.set t' s.world.outside) = t' := lawful.get_set t' s.world.outside
  have hkeeps := ht.keeps.trans hreported.keeps
  simp only [Following.act, hwatch, hfiles, happly]
  refine ⟨ht.registry, ht.path, hget.symm ▸ hreported.sound, hget.symm ▸ hkeeps,
    ⟨pending, hwatch, fun hthere => ?_⟩, fun hrenewed m hfresh => ?_⟩
  · change ChangeKind.settle _ ((s.inputs ++ (events.filterMap started.rawEvent?).map
      WatchInput.raw).flatMap started.heard) ≠ _
    rw [hheard, ChangeKind.settle_append]
    exact hreported.told.settle_ne_remove htold (hget ▸ hthere)
  · by_cases hword : events.flatMap started.told = []
    · have hsame : FileTree.SameAt started.name (files.get s.world.outside) t' := by
        have htold' := hreported.told
        rw [hword] at htold'
        cases htold' with
        | nothing hsame => exact hsame
        | gone hne => exact absurd rfl hne
      have hbefore : s.renewed = true := by
        rcases Bool.or_eq_true_iff.mp hrenewed with hbefore | hrenews
        · exact hbefore
        · exact absurd hword (hreported.renewed hrenews)
      have hfresh' : (h.fresh s.world).1 = .ok m :=
        fresh_of_sameAt s.world { s.world with outside := files.set t' s.world.outside } hc hstart
          rfl ht.path ht.registry
          (hget.symm ▸ hreported.sound) (hget.symm ▸ hkeeps) (hget.symm ▸ hreported.kept)
          (hget.symm ▸ hsame) hfresh
      refine (ht.current hbefore m hfresh').imp_left ?_
      rintro (⟨watch, hsome, howes⟩ | hrest)
      · rw [hwatch] at hsome
        obtain rfl := Option.some.inj hsome
        refine .inl ⟨_, hwatch, howes.imp_right fun hinputs => ?_⟩
        change (s.inputs ++ (events.filterMap started.rawEvent?).map WatchInput.raw).flatMap
          started.heard ≠ []
        rw [hheard, hword, List.append_nil]
        exact hinputs
      · exact .inr hrest
    · refine .inl (.inl ⟨_, hwatch, .inr ?_⟩)
      change (s.inputs ++ (events.filterMap started.rawEvent?).map WatchInput.raw).flatMap
        started.heard ≠ []
      rw [hheard]
      exact fun hnil => hword (List.append_eq_nil_iff.mp hnil).2

theorem receive_one (watch : Watch) (now : Nat) (input : WatchInput) :
    watch.receive [(now, input)] =
      ({ watch with pending := (watch.debounce.step watch.fileName watch.pending now input).1 },
        (watch.debounce.step watch.fileName watch.pending now input).2) := by
  simp only [Watch.receive, Debounce.run, List.append_nil]

theorem Tracks.feed (hc : h.Confined files first.store.registry)
    (hstart : Watch.start hasRuntime (files.get first.outside) first.store.path debounce =
      .ok started)
    (listens : ∀ kind, kind ≠ .remove → kind ∈ debounce.listen)
    (ht : Tracks h files first started s) (input : WatchInput) (rest : List WatchInput)
    (hinputs : s.inputs.flatMap started.heard =
      started.heard input ++ rest.flatMap started.heard) :
    Tracks h files first started ({ s with inputs := rest }.feed input) := by
  obtain ⟨pending, hwatch, htold⟩ := ht.watch
  obtain ⟨-, rfl, -⟩ := Watch.start_eq_ok hstart
  rw [hinputs] at htold
  simp only [Following.feed, hwatch, receive_one]
  refine ⟨ht.registry, ht.path, ht.sound, ht.keeps, ⟨_, rfl, fun hthere => ?_⟩,
    fun hrenewed m hfresh => ?_⟩
  · exact started.debounce.settle_step started.fileName s.now (htold hthere)
  · have hfresh' : (h.fresh s.world).1 = .ok m := by
      rw [← hfresh]
      exact Eq.symm (hc.fresh_eq ht.registry rfl rfl rfl)
    obtain ⟨-, -, -, -, -, -, hthere⟩ := there hc hstart ht.path ht.sound ht.keeps hfresh'
    refine (ht.current hrenewed m hfresh').imp_left ?_
    rintro (⟨watch, hsome, howes⟩ | ⟨c, hc⟩ | hanswering)
    · rw [hwatch] at hsome
      obtain rfl := Option.some.inj hsome
      change pending ≠ none ∨ s.inputs.flatMap started.heard ≠ [] at howes
      rw [hinputs] at howes
      rcases Debounce.pending_step listens started.fileName s.now howes with
        hpending | hleft | ⟨c, hsent⟩ | hremove
      · exact .inl ⟨_, rfl, .inl hpending⟩
      · exact .inl ⟨_, rfl, .inr hleft⟩
      · exact .inr (.inl ⟨c, List.mem_append_right _ hsent⟩)
      · exact absurd hremove (htold hthere)
    · exact .inr (.inl ⟨c, List.mem_append_left _ hc⟩)
    · exact .inr (.inr hanswering)

theorem Tracks.spared (hc : h.Confined files first.store.registry)
    (ht : Tracks h files first started s) {w : World V σ} (hs : Spares files s.world w)
    {outputs : List WatchOutput} {tick : Tick}
    (hnext : ∀ m, s.Owes ∨ s.Has m → ({ s with world := w, outputs, tick } : Following V σ).Owes ∨
      ({ s with world := w, outputs, tick } : Following V σ).Has m) :
    Tracks h files first started { s with world := w, outputs, tick } := by
  obtain ⟨pending, hwatch, htold⟩ := ht.watch
  refine ⟨?_, ?_, ?_, ?_, ⟨pending, ?_, ?_⟩, fun hrenewed m hfresh => ?_⟩
  · exact (congrArg Store.registry hs.store).trans ht.registry
  · exact (congrArg Store.path hs.store).trans ht.path
  · exact hs.files.symm ▸ ht.sound
  · exact hs.files.symm ▸ ht.keeps
  · exact (congrArg Store.watch hs.store).trans hwatch
  · exact fun hthere => htold (hs.files ▸ hthere)
  · exact hnext m (ht.current hrenewed m ((hc.fresh_of_spares ht.registry hs).symm.trans hfresh))

theorem Owes.kept {w : World V σ} (hs : s.Owes) {outputs : List WatchOutput} (tick : Tick)
    (hstore : w.store.watch = s.world.store.watch)
    (houtputs : ∀ c, .changed c ∈ s.outputs → .changed c ∈ outputs ∨ tick = .answering (.changed c))
    (htick : ∀ c, s.tick ≠ .answering (.changed c)) :
    ({ s with world := w, outputs, tick } : Following V σ).Owes := by
  rcases hs with ⟨watch, hsome, howes⟩ | ⟨c, hc⟩ | ⟨c, hc⟩
  · exact .inl ⟨watch, hstore.trans hsome, howes⟩
  · rcases houtputs c hc with hleft | htaken
    · exact .inr (.inl ⟨c, hleft⟩)
    · exact .inr (.inr ⟨c, htaken⟩)
  · exact absurd hc (htick c)

theorem Has.kept {w : World V σ} (hs : s.Has m) (hstore : w.store = s.world.store) {tick : Tick}
    (hbefore : ∀ m', s.tick ≠ .loaded (.ok m')) (hafter : ∀ result, tick ≠ .loaded result) :
    ({ s with world := w, tick } : Following V σ).Has m := by
  have hsettings : s.world.store.settings = some m := by
    cases htick : s.tick with
    | loaded result =>
        simp only [Has, htick] at hs
        exact absurd (htick.trans (congrArg Tick.loaded hs)) (hbefore m)
    | idle | answering output | installed | ended => simpa only [Has, htick] using hs
  have hkept : w.store.settings = some m := (congrArg Store.settings hstore).trans hsettings
  cases tick with
  | loaded result => exact absurd rfl (hafter result)
  | idle | answering output | installed | ended => exact hkept

theorem Tracks.goes_on (hc : h.Confined files first.store.registry)
    (ht : Tracks h files first started s) {w : World V σ} (hs : Spares files s.world w)
    {tick : Tick} (hchange : ∀ c, s.tick ≠ .answering (.changed c))
    (hread : ∀ m, s.tick ≠ .loaded (.ok m))
    (hafter : ∀ result, tick ≠ .loaded result) :
    Tracks h files first started { s with world := w, tick } := by
  refine ht.spared hc hs fun m => ?_
  rintro (howes | hhas)
  · exact .inl (howes.kept tick (congrArg Store.watch hs.store) (fun _ => .inl) hchange)
  · exact .inr (hhas.kept hs.store hread hafter)

theorem Tracks.advance (hc : h.Confined files first.store.registry)
    (ht : Tracks h files first started s) : Tracks h files first started (s.advance h) := by
  obtain ⟨world, now, inputs, outputs, tick, renewed⟩ := s
  cases tick with
  | idle =>
      cases outputs with
      | nil => exact ht
      | cons output rest =>
          refine ht.spared hc (.refl world) fun m => ?_
          rintro (howes | hhas)
          · refine .inl (howes.kept _ rfl (fun c hmem => ?_) nofun)
            rcases List.mem_cons.mp hmem with rfl | hmem
            · exact .inr rfl
            · exact .inl hmem
          · exact .inr hhas
  | answering output =>
      cases output with
      | failed message =>
          have hs := hc.report ht.registry (.watching (.source message))
          obtain ⟨tick, hover, hadvance⟩ := advance_failed h
            (s := ⟨world, now, inputs, outputs, .answering (.failed message), renewed⟩) rfl
          rw [hadvance]
          rcases hover with rfl | rfl
          · exact ht.goes_on hc hs nofun nofun nofun
          · exact ht.goes_on hc hs nofun nofun nofun
      | changed c =>
          -- what is read is what would be loaded at this point
          have hs : Spares files world (h.fresh world).2 := hc.fresh_spares ht.registry
          obtain ⟨pending, hwatch, htold⟩ := ht.watch
          exact ⟨(congrArg Store.registry hs.store).trans ht.registry,
            (congrArg Store.path hs.store).trans ht.path, hs.files.symm ▸ ht.sound,
            hs.files.symm ▸ ht.keeps, ⟨pending, (congrArg Store.watch hs.store).trans hwatch,
              fun hthere => htold (hs.files ▸ hthere)⟩,
            fun _ m hfresh => .inr ((hc.fresh_of_spares ht.registry hs).symm.trans hfresh)⟩
  | loaded result =>
      cases result with
      | ok m' =>
          obtain ⟨pending, hwatch, htold⟩ := ht.watch
          refine ⟨ht.registry, ht.path, ht.sound, ht.keeps, ⟨pending, hwatch, htold⟩,
            fun hrenewed m hfresh => ?_⟩
          have hfresh' : (h.fresh world).1 = .ok m := by
            rw [← hfresh]
            exact Eq.symm (hc.fresh_eq ht.registry rfl rfl rfl)
          rcases ht.current hrenewed m hfresh' with howes | hhas
          · exact .inl (howes.kept .installed rfl (fun _ => .inl) nofun)
          · exact .inr (congrArg some (Outcome.ok.inj hhas))
      | error e =>
          have hreport := hc.report ht.registry (.load e)
          have hs := hreport.trans (hc.endTick (h.report (.load e) world).1)
          exact ht.goes_on hc hs nofun nofun nofun
      | panic p =>
          have hs := hc.endTick (w := world) (.error ⟨p⟩ : Except Panic Unit)
          exact ht.goes_on hc hs nofun nofun nofun
  | installed =>
      have hrun : Spares files world (h.runRegistered world.store.registry world).2 := by
        rw [show world.store.registry = first.store.registry from ht.registry]
        exact hc.runRegistered ht.registry
      have hs := hrun.trans (hc.endTick (h.runRegistered world.store.registry world).1)
      exact ht.goes_on hc hs nofun nofun nofun
  | ended => exact ht

theorem Tracks.move (lawful : files.Lawful) (hc : h.Confined files first.store.registry)
    (hstart : Watch.start hasRuntime (files.get first.outside) first.store.path debounce =
      .ok started)
    (listens : ∀ kind, kind ≠ .remove → kind ∈ debounce.listen)
    (ht : Tracks h files first started s) (m : Move) :
    Tracks h files first started (s.move h files m) := by
  cases m with
  | act a => exact ht.act lawful hc hstart a
  | fail message =>
      obtain ⟨pending, hwatch, htold⟩ := ht.watch
      have hheard : (s.inputs ++ [WatchInput.failure message]).flatMap started.heard =
          s.inputs.flatMap started.heard := by
        rw [List.flatMap_append]
        exact List.append_nil _
      refine ⟨ht.registry, ht.path, ht.sound, ht.keeps,
        ⟨pending, hwatch, fun hthere => hheard ▸ htold hthere⟩, fun hrenewed m hfresh => ?_⟩
      refine (ht.current hrenewed m hfresh).imp_left ?_
      rintro (⟨watch, hsome, howes⟩ | hrest)
      · rw [hwatch] at hsome
        obtain rfl := Option.some.inj hsome
        exact .inl ⟨_, hwatch, howes.imp_right fun hne => hheard.symm ▸ hne⟩
      · exact .inr hrest
  | wait time =>
      exact ⟨ht.registry, ht.path, ht.sound, ht.keeps, ht.watch, ht.current⟩
  | take =>
      cases hinputs : s.inputs with
      | nil => simpa only [Following.move, hinputs] using ht
      | cons input rest =>
          simp only [Following.move, hinputs]
          exact ht.feed hc hstart listens input rest (by rw [hinputs]; rfl)
  | ring => exact ht.feed hc hstart listens .tick s.inputs rfl
  | advance => exact ht.advance hc

end

/-- A watched store that is quiet has what its file has: if the file was created, written or renamed
onto since the watch was started, and can be loaded as it is, then the settings in force are those
that a load would install. This is so after any moves, in any order, of those who act on files, of
the watch and of the reload ticks. -/
theorem quiet_store_has_file (h : Host V σ) {files : Focus σ FileTree} (lawful : files.Lawful)
    {w : World V σ} (sound : (files.get w.outside).Sound)
    (confined : h.Confined files w.store.registry) {hasRuntime : Bool} {debounce : Debounce}
    (listens : ∀ kind, kind ≠ .remove → kind ∈ debounce.listen) {store : Store V}
    (started : w.store.startWatching hasRuntime (files.get w.outside) debounce = .ok store)
    (moves : List Move) :
    let s := Following.after h files { world := { w with store } } moves
    s.Quiet → s.renewed = true → ∀ m, (h.fresh s.world).1 = .ok m →
      s.world.store.settings = some m := by
  intro s quiet renewed m hfresh
  obtain ⟨watch, hstart, rfl⟩ : ∃ watch,
      Watch.start hasRuntime (files.get w.outside) w.store.path debounce = .ok watch ∧
        store = { w.store with watch := some watch } := by
    simp only [Store.startWatching] at started
    split_ifs at started
    rcases hstart : Watch.start hasRuntime (files.get w.outside) w.store.path debounce
      with e | watch
    · simp [hstart] at started
    · simp only [hstart, Except.ok.injEq] at started
      exact ⟨watch, rfl, started.symm⟩
  obtain ⟨-, -, hpending, -⟩ := Watch.start_eq_ok hstart
  have hfirst : Tracks h files w watch
      { world := { w with store := { w.store with watch := some watch } } } :=
    { registry := rfl
      path := rfl
      sound := sound
      keeps := .refl _
      watch := ⟨watch.pending, rfl, fun _ => by rw [hpending]; exact nofun⟩
      current := nofun }
  have ht : Tracks h files w watch s :=
    after_induction (fun _ m kept => kept.move lawful confined hstart listens m) hfirst moves
  obtain ⟨pending, hwatch, -⟩ := ht.watch
  rcases ht.current renewed m hfresh with howes | hhas
  · rcases howes with ⟨watch', hsome, hleft | hleft⟩ | ⟨c, hc⟩ | ⟨c, hc⟩
    · exact absurd (quiet.pending watch' hsome) hleft
    · rw [quiet.inputs] at hleft
      exact absurd rfl hleft
    · rw [quiet.outputs] at hc
      exact absurd hc nofun
    · rw [quiet.tick] at hc
      exact absurd hc nofun
  · simpa only [Has, quiet.tick] using hhas

/-- Registered with a store: what looks at it, and fails. -/
private def watchedStore : Store Service.vocabulary where
  path := "/work/app.env"
  registry :=
    { before := [.look "before" "mode" false]
      updaters := [.job "reader" "reader" (.read "mode"), .job "broken" "broken" (.fail "no")] }

private def served : World Service.vocabulary Service.Outside :=
  ⟨watchedStore, { streams := { files := .start ["work"], time := "" } }⟩

/-- The file is replaced while what was written before is about to be installed. -/
private def overtaken : List Move :=
  [.act (.write "/work/app.env" "mode=old".toUTF8), .take, .take, .take, .take, .wait 100, .ring,
    .advance, .advance, .act (.remove "/work/app.env"),
    .act (.write "/work/staged.tmp" "mode=new".toUTF8),
    .act (.rename "/work/staged.tmp" "/work/app.env"), .advance, .advance] ++
    List.replicate 8 .take ++ [.wait 100, .ring] ++ List.replicate 4 .advance

theorem quiet_store_has_file_overtaken :
    ∃ store, served.store.startWatching true (Service.tree.get served.outside) {} = .ok store ∧
      ∃ m, (Following.after Service.host Service.tree { world := { served with store } }
          overtaken).world.store.settings = some m ∧ m.get? "mode" = some "new" := by
  refine ⟨_, rfl, ?_⟩
  have sound : (Service.tree.get served.outside).Sound :=
    FileTree.sound_start (show ¬ ["dev"] <+: ["work"] by decide)
  have confined : Service.host.Confined Service.tree served.store.registry :=
    Service.confined (by decide) (by decide)
  have listens : ∀ kind : ChangeKind, kind ≠ .remove → kind ∈ ({} : Debounce).listen := by
    intro kind hkind
    cases kind with
    | remove => exact absurd rfl hkind
    | create | modify => decide
  have hquiet := quiet_store_has_file Service.host Service.lawful_tree sound confined listens
    (show served.store.startWatching true (Service.tree.get served.outside) {} = .ok _ from rfl)
    overtaken
  generalize hs : Following.after Service.host Service.tree _ overtaken = s at hquiet ⊢
  have hmode : (Service.host.fresh s.world).1.map (·.get? "mode") = .ok (some "new") := by
    rw [← hs]
    decide +kernel
  have quiet : s.Quiet := by
    rw [← hs]
    exact ⟨rfl, fun _ h => by cases h; rfl, rfl, rfl⟩
  have renewed : s.renewed = true := by
    rw [← hs]
    rfl
  cases hfresh : (Service.host.fresh s.world).1 with
  | ok m =>
      rw [hfresh] at hmode
      exact ⟨m, hquiet quiet renewed m hfresh, Outcome.ok.inj hmode⟩
  | error e =>
      rw [hfresh] at hmode
      cases hmode
  | panic p =>
      rw [hfresh] at hmode
      cases hmode

end Following

end LiveConfig
