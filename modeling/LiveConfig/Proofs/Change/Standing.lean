import LiveConfig.Proofs.Change.Telling
/-!
Where a watch stands.

A watch that was started on a path stands on the name to which the path leads: its directory is that
of the name, however the path is written, and stays so while directories stay.
-/

set_option autoImplicit false

namespace LiveConfig

variable {t u : FileTree} {parent : List String} {last path : String}

theorem FileTree.locate_directoryOf {spot : FileTree.Spot}
    (hlocate : t.locate path = .ok (.entry parent last false))
    (hdir : t.locate (Watch.directoryOf path) = .ok spot) : spot.absolute = parent := by
  obtain ⟨init, hsplit, hproper, hpass, hparent⟩ := locate_entry hlocate
  obtain ⟨-, hwalk⟩ := walk_of_locate hdir
  -- it suffices that the segments of the directory pass to the parent
  suffices hgoal : t.pass (t.origin (Watch.directoryOf path))
      (names (Path.split (Watch.directoryOf path).toList)) = some parent by
    obtain ⟨spot', hspot, habsolute⟩ := walk_of_pass
      ((Watch.directoryOf path).toList.getLast? = some '/') hgoal
    rw [hwalk] at hspot
    rw [Except.ok.inj hspot, habsolute]
  by_cases hinit : init = []
  · subst hinit
    have hnone : Path.parent? path = some "" := by
      have hdrop : Path.dropIdleEnd [last.toList] = [last.toList] := rfl
      rw [List.nil_append] at hsplit
      simp only [Path.parent?, hsplit, hdrop]
      split
      · rename_i heq
        exact absurd heq (List.cons_ne_nil _ _)
      · rename_i heq
        exact absurd (List.cons.inj heq).1 hproper.named
      · rfl
      · rename_i hmore
        exact absurd rfl (hmore last.toList)
    have hhere : Watch.directoryOf path = "." := by simp [Watch.directoryOf, hnone]
    have hrelative : Path.isAbsolute path = false := by
      have hhead := Path.head?_eq_slash_iff hsplit
      simp [Path.isAbsolute, hhead]
    have horigin : t.origin path = parent := Option.some.inj hpass
    have hcwd : t.cwd = parent := by
      simpa [origin, hrelative] using horigin
    rw [hhere]
    have hnames : names (Path.split ".".toList) = ["."] := by decide
    have hstart : t.origin "." = t.cwd := rfl
    rw [hnames, hstart, hcwd]
    simp [pass, hparent]
  · obtain ⟨dir, kept, dropped, hdirEq, hne, habsolute, hkept, hidle, hsegments⟩ :=
      Path.parent?_of_split hsplit hproper hinit
    have hhere : Watch.directoryOf path = dir := by simp [Watch.directoryOf, hdirEq, hne]
    have hnames : names init = names kept ++ names dropped := by
      rw [hkept, names, List.filter_append, List.map_append]
      rfl
    rw [hnames, pass_append] at hpass
    obtain ⟨middle, hmiddle, hrest⟩ := Option.bind_eq_some_iff.mp hpass
    have hsame : names (Path.split dir.toList) = names kept :=
      congrArg (List.map String.ofList) hsegments
    have horigin : t.origin dir = t.origin path := by rw [origin, origin, habsolute]
    rw [hhere, hsame, horigin, hmiddle, pass_idle hidle hrest]

namespace Watch

theorem start_eq_ok {hasRuntime : Bool} {debounce : Debounce} {w : Watch}
    (h : start hasRuntime t path debounce = .ok w) :
    Path.fileName? path = some w.fileName ∧ w.debounce = debounce ∧ w.pending = none ∧
      ∃ spot, t.locate (directoryOf path) = .ok spot ∧ w.place = spot.absolute := by
  cases hasRuntime with
  | false => simp [start] at h
  | true =>
      cases hname : Path.fileName? path with
      | none => simp [start, hname] at h
      | some fileName =>
          cases hdir : t.isDirectory (directoryOf path) with
          | false => simp [start, hname, hdir] at h
          | true =>
              rcases hlocate : t.locate (directoryOf path) with fault | spot
              · simp [start, hname, hdir, hlocate] at h
              · simp only [start, hname, hdir, hlocate, Bool.not_true, Bool.false_eq_true,
                  if_false] at h
                obtain rfl := Except.ok.inj h
                exact ⟨rfl, rfl, rfl, spot, rfl, rfl⟩

/-- The path of a watch leads to the name that the watch stands on. -/
theorem name_of_locate {hasRuntime : Bool} {debounce : Debounce} {w : Watch}
    (h : start hasRuntime t path debounce = .ok w) (hkeeps : t.KeepsDirectories u)
    (hlocate : u.locate path = .ok (.entry parent last false)) : parent ++ [last] = w.name := by
  obtain ⟨hname, -, -, spot, hdir, hplace⟩ := start_eq_ok h
  have hparent := FileTree.locate_directoryOf hlocate (hkeeps.locate hdir)
  rw [FileTree.fileName?_of_locate hlocate] at hname
  rw [Watch.eq_name_iff, hplace, hparent]
  exact ⟨rfl, Option.some.inj hname⟩

end Watch

end LiveConfig
