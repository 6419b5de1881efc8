import LiveConfig.Change.FileWatch
import LiveConfig.Proofs.Change.Settling
import LiveConfig.Proofs.FileTree.Reading
/-!
What a watch is told of an action on files.

The watch of a file stands on one name in one directory. An action that changes what is under the
name tells of it, in words that end as the action does: a file that is there was created, or was
there before and was written.
-/

set_option autoImplicit false

namespace LiveConfig

variable {t t' : FileTree} {parent parent' : List String} {last last' path : String}

namespace Watch

variable (w : Watch)

def name : List String := w.place ++ [w.fileName]

def told (e : DirectoryEvent) : List ChangeKind :=
  (w.rawEvent? e).toList.flatMap fun raw => (raw.changes w.fileName).map Change.kind

def heard (input : WatchInput) : List ChangeKind := input.kinds w.fileName

theorem flatMap_heard (events : List DirectoryEvent) :
    ((events.filterMap w.rawEvent?).map WatchInput.raw).flatMap w.heard =
      events.flatMap w.told := by
  induction events with
  | nil => rfl
  | cons e rest ih =>
      cases hraw : w.rawEvent? e with
      | none => simp [told, hraw, ih]
      | some raw => simp [told, heard, WatchInput.kinds, hraw, ← ih]

theorem changeOf?_join (e : RawEvent) (hlast : Path.Proper last.toList) (index : Nat) :
    (e.changeOf? w.fileName (Path.join w.directory last, index)).map Change.kind =
      if last = w.fileName then e.kind.changeAt index else none := by
  have hpath := Path.fileName?_join w.directory hlast
  by_cases hname : last = w.fileName
  · rw [RawEvent.changeOf?, if_pos (hpath.trans (congrArg some hname)), if_pos hname,
      Option.map_map]
    exact Option.map_id'
  · have hne : Path.fileName? (Path.join w.directory last) ≠ some w.fileName := by
      rw [hpath]
      exact fun heq => hname (Option.some.inj heq)
    rw [RawEvent.changeOf?, if_neg hne, if_neg hname]
    rfl

theorem eq_name_iff : parent ++ [last] = w.name ↔ parent = w.place ∧ last = w.fileName := by
  constructor
  · intro h
    obtain ⟨hparent, hlast⟩ := List.append_inj' h rfl
    exact ⟨hparent, (List.cons.inj hlast).1⟩
  · rintro ⟨rfl, rfl⟩
    rfl

theorem told_one (parent : List String) (kind : RawKind) (hlast : Path.Proper last.toList) :
    w.told ⟨kind, [parent ++ [last]]⟩ =
      if parent ++ [last] = w.name then (kind.changeAt 0).toList else [] := by
  have hchange := w.changeOf?_join ⟨kind, [Path.join w.directory last]⟩ hlast 0
  by_cases hparent : parent = w.place
  · have hraw : w.rawEvent? ⟨kind, [parent ++ [last]]⟩ =
        some ⟨kind, [Path.join w.directory last]⟩ := by
      simp [rawEvent?, hparent]
    have htold : w.told ⟨kind, [parent ++ [last]]⟩ =
        (if last = w.fileName then kind.changeAt 0 else none).toList := by
      rw [← hchange, told, hraw]
      cases h : RawEvent.changeOf? ⟨kind, [Path.join w.directory last]⟩ w.fileName
        (Path.join w.directory last, 0) <;> simp [RawEvent.changes, h]
    rw [htold]
    by_cases hname : last = w.fileName
    · rw [if_pos hname, if_pos (w.eq_name_iff.mpr ⟨hparent, hname⟩)]
    · rw [if_neg hname, if_neg fun heq => hname (w.eq_name_iff.mp heq).2]
      rfl
  · have hraw : w.rawEvent? ⟨kind, [parent ++ [last]]⟩ = none := by
      simp [rawEvent?, hparent]
    rw [told, hraw, if_neg]
    · rfl
    · exact fun heq => hparent (w.eq_name_iff.mp heq).1

theorem told_both (parent parent' : List String) (kind : RawKind)
    (hlast : Path.Proper last.toList)
    (hlast' : Path.Proper last'.toList) :
    w.told ⟨kind, [parent ++ [last], parent' ++ [last']]⟩ =
      if parent = w.place ∧ parent' = w.place then
        (if last = w.fileName then kind.changeAt 0 else none).toList ++
          (if last' = w.fileName then kind.changeAt 1 else none).toList
      else [] := by
  have hnames : ∀ p q : List String, ([p ++ [last], q ++ [last']].filter fun name =>
      name ≠ [] ∧ name.dropLast = w.place) =
        (if p = w.place then [p ++ [last]] else []) ++
          (if q = w.place then [q ++ [last']] else []) := by
    intro p q
    by_cases hp : p = w.place <;> by_cases hq : q = w.place <;> simp [hp, hq]
  by_cases hboth : parent = w.place ∧ parent' = w.place
  · have hraw : w.rawEvent? ⟨kind, [parent ++ [last], parent' ++ [last']]⟩ =
        some ⟨kind, [Path.join w.directory last, Path.join w.directory last']⟩ := by
      simp [rawEvent?, hboth.1, hboth.2]
    rw [if_pos hboth, told, hraw]
    have hfirst := w.changeOf?_join
      ⟨kind, [Path.join w.directory last, Path.join w.directory last']⟩ hlast 0
    have hsecond := w.changeOf?_join
      ⟨kind, [Path.join w.directory last, Path.join w.directory last']⟩ hlast' 1
    rw [← hfirst, ← hsecond]
    cases h : RawEvent.changeOf?
        ⟨kind, [Path.join w.directory last, Path.join w.directory last']⟩ w.fileName
        (Path.join w.directory last, 0) <;>
      cases h' : RawEvent.changeOf?
        ⟨kind, [Path.join w.directory last, Path.join w.directory last']⟩ w.fileName
        (Path.join w.directory last', 1) <;>
      simp [RawEvent.changes, h, h']
  · have hraw : w.rawEvent? ⟨kind, [parent ++ [last], parent' ++ [last']]⟩ = none := by
      simp only [rawEvent?, hnames]
      by_cases hp : parent = w.place <;> by_cases hq : parent' = w.place
      · exact absurd ⟨hp, hq⟩ hboth
      · simp [hp, hq]
      · simp [hp, hq]
      · simp [hp, hq]
    rw [told, hraw, if_neg hboth]
    rfl

theorem told_metadata (names : List (List String)) : w.told ⟨.metadata, names⟩ = [] := by
  cases hraw : w.rawEvent? ⟨.metadata, names⟩ with
  | none => simp [told, hraw]
  | some raw =>
      have hkind : raw.kind = .metadata := by
        simp only [rawEvent?] at hraw
        split_ifs at hraw
        rw [← Option.some.inj hraw]
      have hnone : raw.changes w.fileName = [] := by
        refine List.filterMap_eq_nil_iff.mpr fun entry _ => ?_
        simp [RawEvent.changeOf?, hkind, RawKind.changeAt]
      simp [told, hraw, hnone]

end Watch

/-! ### Actions -/

/-- What is told of a name between two trees. Of a file that is there in the end it is told that
it was created, or, if it was there before, that it was written; and what is not told did not
happen. -/
inductive Told (name : List String) (t t' : FileTree) : List ChangeKind → Prop
  | nothing : FileTree.SameAt name t t' → Told name t t' []
  | created {later : List ChangeKind} : .remove ∉ later → Told name t t' (.create :: later)
  | written {later : List ChangeKind} : .remove ∉ later → t.node? name ≠ none →
      Told name t t' (.modify :: later)
  | gone {word : List ChangeKind} : word ≠ [] → t'.node? name = none → Told name t t' word

theorem Told.settle_ne_remove {name : List String} {word : List ChangeKind}
    (h : Told name t t' word) {before : Option ChangeKind}
    (hbefore : t.node? name ≠ none → before ≠ some .remove) (hthere : t'.node? name ≠ none) :
    ChangeKind.settle before word ≠ some .remove := by
  cases h with
  | nothing hsame => exact hbefore (hsame.node ▸ hthere)
  | created hlater =>
      change ChangeKind.settle (ChangeKind.join before .create) _ ≠ _
      rw [ChangeKind.join_of_ne_modify (show ChangeKind.create ≠ .modify from nofun)]
      exact ChangeKind.settle_ne_remove hlater nofun
  | written hlater hwas =>
      exact ChangeKind.settle_ne_remove hlater (ChangeKind.join_modify_ne_remove (hbefore hwas))
  | gone _ hgone => exact absurd hgone hthere

namespace FileAction

/-- Whether the action is one on files, which is to say that it renames no directory. -/
def onFiles (t : FileTree) : FileAction → Bool
  | rename source _ => !t.isDirectory source
  | _ => true

/-- Whether the action creates or writes the file of a name, or renames another one onto it. -/
def renews (t : FileTree) (name : List String) : FileAction → Bool
  | write path _ => (t.locate path).toOption.map FileTree.Spot.absolute = some name
  | rename source target =>
      (t.locate target).toOption.map FileTree.Spot.absolute = some name ∧
        (t.locate source).toOption.map FileTree.Spot.absolute ≠ some name
  | _ => false

/-- What an action does to a sound tree, and tells a watch of. -/
structure Reported (w : Watch) (a : FileAction) (t t' : FileTree) (word : List ChangeKind) :
    Prop where
  sound : t'.Sound
  keeps : t.KeepsDirectories t'
  kept : t'.KeepsDirectories t
  told : Told w.name t t' word
  renewed : a.renews t w.name = true → word ≠ []

variable {w : Watch} {events : List DirectoryEvent}

theorem flatMap_told_writeEvents (w : Watch) (parent : List String)
    (hlast : Path.Proper last.toList) (isNew : Bool) (bytes : ByteArray) :
    (writeEvents isNew bytes (parent ++ [last])).flatMap w.told =
      if parent ++ [last] = w.name then
        (if isNew then .create else .modify) :: (if bytes.isEmpty then [] else [.modify])
      else [] := by
  by_cases hname : parent ++ [last] = w.name
  · have hone : ∀ kind : RawKind,
        w.told ⟨kind, [parent ++ [last]]⟩ = (kind.changeAt 0).toList :=
      fun kind => (w.told_one parent kind hlast).trans (if_pos hname)
    rw [if_pos hname]
    cases isNew <;> cases hempty : bytes.isEmpty <;>
      simp [writeEvents, hone, hempty, RawKind.changeAt]
  · have hone : ∀ kind : RawKind, w.told ⟨kind, [parent ++ [last]]⟩ = [] :=
      fun kind => (w.told_one parent kind hlast).trans (if_neg hname)
    rw [if_neg hname]
    cases isNew <;> cases hempty : bytes.isEmpty <;> simp [writeEvents, hone, hempty]

theorem flatMap_told_renameEvents (hlast : Path.Proper last.toList)
    (hlast' : Path.Proper last'.toList) (hne : parent ++ [last] ≠ parent' ++ [last']) :
    let word := (renameEvents (parent ++ [last]) (parent' ++ [last'])).flatMap w.told
    (parent ++ [last] = w.name → word ≠ []) ∧
      (parent' ++ [last'] = w.name → ∃ later, word = .create :: later ∧ .remove ∉ later) ∧
      (parent ++ [last] ≠ w.name → parent' ++ [last'] ≠ w.name → word = []) := by
  intro word
  have hword : word = w.told ⟨.rename .source, [parent ++ [last]]⟩ ++
      (w.told ⟨.rename .target, [parent' ++ [last']]⟩ ++
        w.told ⟨.rename .both, [parent ++ [last], parent' ++ [last']]⟩) := by
    simp [word, renameEvents, hne]
  have hsource := w.told_one parent (.rename .source) hlast
  have htarget := w.told_one parent' (.rename .target) hlast'
  have hboth := w.told_both parent parent' (.rename .both) hlast hlast'
  refine ⟨fun hold => ?_, fun hnew => ?_, fun hold hnew => ?_⟩
  · rw [hword, hsource, if_pos hold]
    exact nofun
  · have hold : parent ++ [last] ≠ w.name := fun heq => hne (heq.trans hnew.symm)
    rw [if_neg hold] at hsource
    rw [if_pos hnew] at htarget
    refine ⟨_, by rw [hword, hsource, htarget]; rfl, ?_⟩
    rw [hboth]
    split_ifs with hplaces hname
    · exact absurd (w.eq_name_iff.mpr ⟨hplaces.1, hname⟩) hold
    · exact absurd (w.eq_name_iff.mpr ⟨hplaces.1, hname⟩) hold
    · simp [RawKind.changeAt]
    · simp
    · simp
  · rw [if_neg hold] at hsource
    rw [if_neg hnew] at htarget
    rw [hword, hsource, htarget, hboth]
    split_ifs with hplaces hname _ hname'
    · exact absurd (w.eq_name_iff.mpr ⟨hplaces.1, hname⟩) hold
    · exact absurd (w.eq_name_iff.mpr ⟨hplaces.1, hname⟩) hold
    · exact absurd (w.eq_name_iff.mpr ⟨hplaces.2, hname'⟩) hnew
    · rfl
    · rfl

private theorem reported_of_changedAt {a : FileAction} {names : List (List String)}
    {word : List ChangeKind} (h : FileTree.ChangedAt names t t') (told : Told w.name t t' word)
    (renewed : a.renews t w.name = true → word ≠ []) : Reported w a t t' word :=
  ⟨h.sound, h.keeps, h.kept, told, renewed⟩

private theorem reported_write (h : t.Sound) {bytes : ByteArray}
    (happly : apply t (write path bytes) = .ok (t', events)) :
    Reported w (write path bytes) t t' (events.flatMap w.told) := by
  rcases hwrite : t.write path bytes with fault | written
  · cases hlocate : t.locate path <;>
      simp [apply, hlocate, hwrite, Bind.bind, Except.bind] at happly
  obtain ⟨parent, last, hlocate, hchanged, hthere⟩ := FileTree.changedAt_write h hwrite
  simp only [apply, hlocate, hwrite, Bind.bind, Except.bind, Except.ok.injEq,
    Prod.mk.injEq] at happly
  obtain ⟨rfl, rfl⟩ := happly
  obtain ⟨-, -, hlast, -⟩ := FileTree.locate_entry hlocate
  have hwords := flatMap_told_writeEvents w parent hlast
    (t.node? (parent ++ [last])).isNone bytes
  have hlater : ChangeKind.remove ∉ if bytes.isEmpty then [] else [ChangeKind.modify] := by
    cases bytes.isEmpty <;> simp
  change Reported w _ t written ((writeEvents (t.node? (parent ++ [last])).isNone bytes
    (parent ++ [last])).flatMap w.told)
  by_cases hname : parent ++ [last] = w.name
  · rw [hwords, if_pos hname]
    refine reported_of_changedAt hchanged ?_ (fun _ => nofun)
    cases hwas : t.node? (parent ++ [last]) with
    | none => exact .created hlater
    | some node => exact .written hlater (by rw [← hname, hwas]; exact nofun)
  · rw [hwords, if_neg hname]
    refine reported_of_changedAt hchanged (.nothing (hchanged.others _ ?_)) ?_
    · exact fun hmem => hname (List.mem_singleton.mp hmem).symm
    · intro hrenews
      have habsolute : parent ++ [last] = w.name := by
        simpa [renews, hlocate, Except.toOption, FileTree.Spot.absolute] using hrenews
      exact absurd habsolute hname

private theorem reported_remove (h : t.Sound)
    (happly : apply t (remove path) = .ok (t', events)) :
    Reported w (remove path) t t' (events.flatMap w.told) := by
  rcases hremove : t.remove path with fault | rest
  · cases hlocate : t.locate path <;>
      simp [apply, hlocate, hremove, Bind.bind, Except.bind] at happly
  obtain ⟨parent, last, hlocate, hchanged, hgone⟩ := FileTree.changedAt_remove h hremove
  simp only [apply, hlocate, hremove, Bind.bind, Except.bind, Except.ok.injEq,
    Prod.mk.injEq] at happly
  obtain ⟨rfl, rfl⟩ := happly
  obtain ⟨-, -, hlast, -⟩ := FileTree.locate_entry hlocate
  have hword : [DirectoryEvent.mk .remove
      [(FileTree.Spot.entry parent last false).absolute]].flatMap w.told =
        if parent ++ [last] = w.name then [.remove] else [] := by
    rw [List.flatMap_singleton]
    exact w.told_one parent .remove hlast
  rw [hword]
  by_cases hname : parent ++ [last] = w.name
  · rw [if_pos hname]
    exact reported_of_changedAt hchanged (.gone nofun (hname ▸ hgone)) nofun
  · rw [if_neg hname]
    refine reported_of_changedAt hchanged (.nothing (hchanged.others _ ?_)) nofun
    exact fun hmem => hname (List.mem_singleton.mp hmem).symm

private theorem reported_rename (h : t.Sound) {source target : String}
    (hfile : t.isDirectory source = false)
    (happly : apply t (rename source target) = .ok (t', events)) :
    Reported w (rename source target) t t' (events.flatMap w.told) := by
  rcases hrename : t.rename source target with fault | renamed
  · cases hsource : t.locate source <;> cases htarget : t.locate target <;>
      simp [apply, hsource, htarget, hrename, Bind.bind, Except.bind] at happly
  obtain ⟨parent, last, parent', last', hsource, htarget, hcase⟩ :=
    FileTree.changedAt_rename h hfile hrename
  simp only [apply, hsource, htarget, hrename, Bind.bind, Except.bind, Except.ok.injEq,
    Prod.mk.injEq] at happly
  obtain ⟨rfl, rfl⟩ := happly
  obtain ⟨-, -, hlast, -⟩ := FileTree.locate_entry hsource
  obtain ⟨-, -, hlast', -⟩ := FileTree.locate_entry htarget
  have hrenews : renews t w.name (rename source target) = true →
      parent' ++ [last'] = w.name ∧ parent ++ [last] ≠ w.name := by
    simp [renews, hsource, htarget, Except.toOption, FileTree.Spot.absolute]
  change Reported w _ t renamed
    ((renameEvents (parent ++ [last]) (parent' ++ [last'])).flatMap w.told)
  rcases hcase with ⟨hsame, rfl⟩ | ⟨hne, hchanged, hgone⟩
  · have hnone : (renameEvents (parent ++ [last]) (parent' ++ [last'])).flatMap w.told = [] := by
      simp [renameEvents, hsame]
    rw [hnone]
    refine reported_of_changedAt (.refl h []) (.nothing ⟨rfl, fun _ _ => rfl⟩) fun hr => ?_
    exact absurd (hsame.trans (hrenews hr).1) (hrenews hr).2
  obtain ⟨hold, hnew, hneither⟩ := flatMap_told_renameEvents (w := w) hlast hlast' hne
  by_cases hsourceName : parent ++ [last] = w.name
  · exact reported_of_changedAt hchanged (.gone (hold hsourceName) (hsourceName ▸ hgone))
      fun _ => hold hsourceName
  by_cases htargetName : parent' ++ [last'] = w.name
  · obtain ⟨later, hword, hlater⟩ := hnew htargetName
    rw [hword]
    exact reported_of_changedAt hchanged (.created hlater) fun _ => nofun
  · rw [hneither hsourceName htargetName]
    refine reported_of_changedAt hchanged (.nothing (hchanged.others _ ?_)) fun hr => ?_
    · simp [Ne.symm hsourceName, Ne.symm htargetName]
    · exact absurd (hrenews hr).1 htargetName

private theorem reported_touch (h : t.Sound) (happly : apply t (touch path) = .ok (t', events)) :
    Reported w (touch path) t t' (events.flatMap w.told) := by
  rcases hlocate : t.locate path with fault | spot
  · simp [apply, hlocate, Bind.bind, Except.bind] at happly
  rcases hfind : t.find path with fault | node
  · simp [apply, hlocate, hfind, Bind.bind, Except.bind] at happly
  simp only [apply, hlocate, hfind, Bind.bind, Except.bind, Except.ok.injEq,
    Prod.mk.injEq] at happly
  obtain ⟨rfl, rfl⟩ := happly
  rw [List.flatMap_singleton, w.told_metadata]
  exact reported_of_changedAt (.refl h []) (.nothing ⟨rfl, fun _ _ => rfl⟩) nofun

/-- Whatever is done to files keeps a sound tree sound, and tells a watch what became of its
file. -/
theorem reported (w : Watch) (h : t.Sound) {a : FileAction} (hfiles : a.onFiles t = true)
    (happly : a.apply t = .ok (t', events)) : Reported w a t t' (events.flatMap w.told) := by
  cases a with
  | write path bytes => exact reported_write h happly
  | rename source target =>
      have hfile : t.isDirectory source = false := by simpa [onFiles] using hfiles
      exact reported_rename h hfile happly
  | remove path => exact reported_remove h happly
  | touch path => exact reported_touch h happly

end FileAction

end LiveConfig
