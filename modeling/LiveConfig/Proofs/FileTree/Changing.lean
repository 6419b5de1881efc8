import LiveConfig.Proofs.FileTree.Sound
/-!
What writing, renaming and removing files change.

Each changes a sound tree at the names it is given only. It stays sound, with the directories it
had, so that paths go on leading where they did.
-/

set_option autoImplicit false

namespace LiveConfig.FileTree

variable {t t' u : FileTree} {name old new parent : List String} {last path : String} {id : Nat}
  {node : Node}

/-- The name stands for the same, and a file under it has the same content. -/
structure SameAt (name : List String) (t t' : FileTree) : Prop where
  node : t'.node? name = t.node? name
  content : ∀ id, t.node? name = some (.file id) → t'.content id = t.content id

/-- The tree was changed at some names, and is as sound as it was. -/
structure ChangedAt (names : List (List String)) (t t' : FileTree) : Prop where
  sound : t'.Sound
  keeps : t.KeepsDirectories t'
  kept : t'.KeepsDirectories t
  others : ∀ name ∉ names, SameAt name t t'

theorem ChangedAt.refl (h : t.Sound) (names : List (List String)) : ChangedAt names t t :=
  ⟨h, .refl t, .refl t, fun _ _ => ⟨rfl, fun _ _ => rfl⟩⟩

theorem ChangedAt.trans {names : List (List String)} (h : ChangedAt names t t')
    (h' : ChangedAt names t' u) : ChangedAt names t u where
  sound := h'.sound
  keeps := h.keeps.trans h'.keeps
  kept := h'.kept.trans h.kept
  others := fun n hn => by
    have hfirst := h.others n hn
    have hsecond := h'.others n hn
    refine ⟨hsecond.node.trans hfirst.node, fun i hi => ?_⟩
    rw [hsecond.content i (hfirst.node.trans hi), hfirst.content i hi]

/-! ### Writing -/

theorem changedAt_setContent (h : t.Sound) (hname : t.node? name = some (.file id))
    (content : ByteArray) : ChangedAt [name] t (t.setContent id content) where
  sound := h.setContent id content
  keeps := ⟨rfl, fun _ hd => hd⟩
  kept := ⟨rfl, fun _ hd => hd⟩
  others := fun other hother => by
    refine ⟨rfl, fun i hi => ?_⟩
    rw [content_setContent, if_neg]
    rintro rfl
    exact hother (List.mem_singleton.mpr (h.own _ _ _ hi hname))

theorem changedAt_create (h : t.Sound) (hparent : t.node? parent = some .directory)
    (hfree : t.node? (parent ++ [last]) = none) :
    ChangedAt [parent ++ [last]] t
      ((t.setContent t.freshId .empty).bind (parent ++ [last]) (.file t.freshId)) := by
  have hnode := node?_bind (t.setContent t.freshId .empty) (parent ++ [last])
  refine ⟨h.create hparent hfree, ⟨rfl, fun n hn => ?_⟩, ⟨rfl, fun n hn => ?_⟩,
    fun n hn => ⟨?_, fun i hi => ?_⟩⟩
  · rw [hnode, if_neg]
    · exact hn
    · rintro rfl
      rw [hfree] at hn
      exact absurd hn nofun
  · rw [hnode] at hn
    split_ifs at hn with hsame
    · exact absurd (Option.some.inj hn) nofun
    · exact hn
  · rw [hnode, if_neg (fun heq => hn (List.mem_singleton.mpr heq))]
    rfl
  · rw [content_bind, content_setContent, if_neg]
    exact Nat.ne_of_lt (lt_freshId (h.stored n i hi))

theorem changedAt_openForWriting (h : t.Sound) (hopen : t.openForWriting path = .ok (node, t')) :
    ∃ parent last, t.locate path = .ok (.entry parent last false) ∧
      ChangedAt [parent ++ [last]] t t' ∧ t'.node? (parent ++ [last]) = some node := by
  rcases openForWriting_cases hopen with
    ⟨rfl, ⟨⟨parent, last, hlocate, hlookup⟩, -⟩⟩ | ⟨parent, last, hlocate, hlookup, rfl, rfl⟩
  · exact ⟨parent, last, hlocate, .refl h _, (lookup_entry_eq hlookup).symm⟩
  · obtain ⟨init, -, -, -, hparent⟩ := locate_entry hlocate
    refine ⟨parent, last, hlocate, changedAt_create h hparent (lookup_entry_eq hlookup).symm, ?_⟩
    rw [node?_bind, if_pos rfl]

theorem changedAt_write (h : t.Sound) {bytes : ByteArray} (hwrite : t.write path bytes = .ok t') :
    ∃ parent last, t.locate path = .ok (.entry parent last false) ∧
      ChangedAt [parent ++ [last]] t t' ∧ t'.node? (parent ++ [last]) ≠ none := by
  rcases hopen : t.openForWriting path with fault | ⟨node, t₁⟩
  · simp [write, hopen, Bind.bind, Except.bind] at hwrite
  obtain ⟨parent, last, hlocate, hchanged, hnode⟩ := changedAt_openForWriting h hopen
  refine ⟨parent, last, hlocate, ?_⟩
  simp only [write, hopen, Bind.bind, Except.bind] at hwrite
  cases node with
  | directory => exact absurd hwrite nofun
  | file id =>
      obtain rfl := Except.ok.inj hwrite
      refine ⟨hchanged.trans (changedAt_setContent hchanged.sound hnode bytes), ?_⟩
      rw [node?_setContent, hnode]
      exact nofun
  | sink =>
      obtain rfl := Except.ok.inj hwrite
      exact ⟨hchanged, by rw [hnode]; exact nofun⟩
  | full =>
      simp only [append] at hwrite
      split_ifs at hwrite
      obtain rfl := Except.ok.inj hwrite
      exact ⟨hchanged, by rw [hnode]; exact nofun⟩

/-! ### Removing -/

theorem changedAt_unbind (h : t.Sound) (hname : t.node? name ≠ some .directory) :
    ChangedAt [name] t (t.unbind name) := by
  refine ⟨h.unbind hname, ⟨rfl, fun n hn => ?_⟩, ⟨rfl, fun n hn => ?_⟩, fun n hn => ⟨?_, ?_⟩⟩
  · rw [node?_unbind, if_neg, hn]
    rintro rfl
    exact hname hn
  · rw [node?_unbind] at hn
    split_ifs at hn
    exact hn
  · rw [node?_unbind, if_neg (fun heq => hn (List.mem_singleton.mpr heq))]
  · exact fun _ _ => rfl

theorem changedAt_remove (h : t.Sound) (hremove : t.remove path = .ok t') :
    ∃ parent last, t.locate path = .ok (.entry parent last false) ∧
      ChangedAt [parent ++ [last]] t t' ∧ t'.node? (parent ++ [last]) = none := by
  rcases hlocate : t.locate path with fault | spot
  · simp [remove, hlocate, Bind.bind, Except.bind] at hremove
  rcases hlookup : t.lookup spot with fault | found
  · simp [remove, hlocate, hlookup, Bind.bind, Except.bind] at hremove
  simp only [remove, hlocate, hlookup, Bind.bind, Except.bind] at hremove
  rcases spot with name | ⟨parent, last, slash⟩
  · exact absurd hremove nofun
  have hfound := lookup_entry_eq hlookup
  cases found with
  | none => cases slash <;> exact absurd hremove nofun
  | some node =>
      cases slash with
      | true => cases node <;> exact absurd hremove nofun
      | false =>
          have hnode : node ≠ .directory := by
            rintro rfl
            exact absurd hremove nofun
          have ht' : t' = t.unbind (parent ++ [last]) := by
            cases node with
            | directory => exact absurd rfl hnode
            | _ => exact (Except.ok.inj hremove).symm
          rw [ht']
          refine ⟨parent, last, rfl, changedAt_unbind h ?_, ?_⟩
          · rw [← hfound]
            exact fun hdir => hnode (Option.some.inj hdir)
          · rw [node?_unbind, if_pos rfl]

/-! ### Renaming -/

theorem node?_move (h : t.Sound) (hold : t.node? old ≠ some .directory) (hne : old ≠ new)
    (name : List String) : (t.move old new).node? name =
      if name = new then t.node? old else if name = old then none else t.node? name := by
  have hmoved : (t.move old new).nodes =
      (t.nodes.filter (·.1 ≠ new)).map fun e => if e.1 = old then (new, e.2) else e := by
    refine List.map_congr_left fun e he => ?_
    have hmem : e ∈ t.nodes := (List.mem_filter.mp he).1
    by_cases hsame : e.1 = old
    · simp [hsame]
    · have hsome : (t.node? e.1).isSome = true := by
        cases hnone : t.node? e.1 with
        | some node => rfl
        | none => simpa using List.lookup_eq_none_iff.mp hnone e hmem
      have hprefix : ¬old.isPrefixOf e.1 = true := fun hp =>
        hold (h.parents e.1 old hsome (List.isPrefixOf_iff_prefix.mp hp) (Ne.symm hsame))
      rw [if_neg hprefix, if_neg hsame]
  rw [node?, hmoved, lookup_rekey hne]
  rfl

theorem changedAt_move (h : t.Sound) (hold : t.node? old ≠ some .directory) (hne : old ≠ new)
    (hparent : t.node? parent = some .directory) (hnew : new = parent ++ [last])
    (htarget : t.node? new ≠ some .directory) : ChangedAt [old, new] t (t.move old new) := by
  have hnode := node?_move h hold hne
  have hdirs : ∀ n, t.node? n = some .directory → (t.move old new).node? n = some .directory := by
    intro n hn
    rw [hnode, if_neg, if_neg, hn]
    · rintro rfl
      exact hold hn
    · rintro rfl
      exact htarget hn
  refine ⟨⟨?_, ?_, ?_, ?_⟩, ⟨rfl, hdirs⟩, ⟨rfl, fun n hn => ?_⟩, fun n hn => ⟨?_, fun _ _ => rfl⟩⟩
  · exact hdirs [] h.root
  · intro n p hsome hp hpn
    refine hdirs p ?_
    rw [hnode] at hsome
    split_ifs at hsome with hn hn
    · rw [hn, hnew] at hp hpn
      exact h.above hparent hp hpn
    · exact absurd hsome nofun
    · exact h.parents n p hsome hp hpn
  · intro a b i ha hb
    have hwas : ∀ n, (t.move old new).node? n = some (.file i) →
        (n = new ∧ t.node? old = some (.file i)) ∨ (n ≠ old ∧ t.node? n = some (.file i)) := by
      intro n hn
      rw [hnode] at hn
      split_ifs at hn with hsame hgone
      · exact .inl ⟨hsame, hn⟩
      · exact .inr ⟨hgone, hn⟩
    rcases hwas a ha with ⟨hna, hfrom⟩ | ⟨hane, hfrom⟩
    · rcases hwas b hb with ⟨hnb, -⟩ | ⟨hbne, hfrom'⟩
      · rw [hna, hnb]
      · exact absurd (h.own b old i hfrom' hfrom) hbne
    · rcases hwas b hb with ⟨-, hfrom'⟩ | ⟨-, hfrom'⟩
      · exact absurd (h.own a old i hfrom hfrom') hane
      · exact h.own a b i hfrom hfrom'
  · intro a i ha
    rw [hnode] at ha
    split_ifs at ha with hna hoa
    · exact h.stored old i ha
    · exact h.stored a i ha
  · rw [hnode] at hn
    split_ifs at hn with hn' hn''
    · exact absurd hn hold
    · exact hn
  · simp only [List.mem_cons, List.not_mem_nil, or_false, not_or] at hn
    rw [hnode, if_neg hn.2, if_neg hn.1]

/-- A file that was renamed is not under its old name, unless that is also the new one, and nothing
else was changed. -/
theorem changedAt_rename (h : t.Sound) {source target : String}
    (hfile : t.isDirectory source = false) (hrename : t.rename source target = .ok t') :
    ∃ parent last parent' last', t.locate source = .ok (.entry parent last false) ∧
      t.locate target = .ok (.entry parent' last' false) ∧
      ((parent ++ [last] = parent' ++ [last'] ∧ t' = t) ∨
        (parent ++ [last] ≠ parent' ++ [last'] ∧
          ChangedAt [parent ++ [last], parent' ++ [last']] t t' ∧
          t'.node? (parent ++ [last]) = none)) := by
  rcases hsource : t.locate source with fault | oldSpot
  · simp [rename, hsource, Bind.bind, Except.bind] at hrename
  rcases htarget : t.locate target with fault | newSpot
  · simp [rename, hsource, htarget, Bind.bind, Except.bind] at hrename
  simp only [rename, hsource, htarget, Bind.bind, Except.bind] at hrename
  split at hrename
  · exact absurd hrename nofun
  rcases oldSpot with name | ⟨parent, last, slash⟩
  · exact absurd hrename nofun
  rcases newSpot with name | ⟨parent', last', slash'⟩
  · exact absurd hrename nofun
  rcases hold : t.lookup (.entry parent last slash) with fault | found
  · simp [hold] at hrename
  rcases hnew : t.lookup (.entry parent' last' slash') with fault | found'
  · simp [hold, hnew] at hrename
  have hfound := lookup_entry_eq hold
  have hfound' := lookup_entry_eq hnew
  cases found with
  | none => simp [hold, hnew] at hrename
  | some node =>
      have hnode : node ≠ .directory := by
        rintro rfl
        simp [isDirectory, find, hsource, hold, Bind.bind, Except.bind] at hfile
      -- the names are made opaque, for the conditions below to be rewritten
      generalize holdName : (Spot.entry parent last slash).absolute = old at hrename
      generalize hnewName : (Spot.entry parent' last' slash').absolute = new at hrename
      have hmoved : slash = false ∧ slash' = false ∧
          ((old = new ∧ t' = t) ∨
            (old ≠ new ∧ found' ≠ some .directory ∧ t' = t.move old new)) := by
        cases node with
        | directory => exact absurd rfl hnode
        | _ =>
            simp only [hold, hnew] at hrename
            by_cases hslash : slash = true ∨ slash' = true
            · rw [if_pos hslash] at hrename
              exact absurd hrename nofun
            rw [if_neg hslash] at hrename
            simp only [not_or, Bool.not_eq_true] at hslash
            refine ⟨hslash.1, hslash.2, ?_⟩
            by_cases hsame : old = new
            · rw [if_pos hsame] at hrename
              exact .inl ⟨hsame, (Except.ok.inj hrename).symm⟩
            rw [if_neg hsame] at hrename
            by_cases hbelow : new.isPrefixOf old = true
            · rw [if_pos hbelow] at hrename
              exact absurd hrename nofun
            rw [if_neg hbelow] at hrename
            by_cases hdir : found' = some .directory
            · rw [if_pos hdir] at hrename
              exact absurd hrename nofun
            rw [if_neg hdir] at hrename
            exact .inr ⟨hsame, hdir, (Except.ok.inj hrename).symm⟩
      obtain rfl : parent ++ [last] = old := holdName
      obtain rfl : parent' ++ [last'] = new := hnewName
      obtain ⟨rfl, rfl, hcase⟩ := hmoved
      refine ⟨parent, last, parent', last', rfl, rfl, hcase.imp_right ?_⟩
      rintro ⟨hne, hdir, rfl⟩
      obtain ⟨-, -, -, -, hparent⟩ := locate_entry htarget
      have holdDir : t.node? (parent ++ [last]) ≠ some .directory := by
        rw [← hfound]
        exact fun heq => hnode (Option.some.inj heq)
      refine ⟨hne, changedAt_move h holdDir hne hparent rfl (hfound' ▸ hdir), ?_⟩
      rw [node?_move h holdDir hne, if_neg hne, if_pos rfl]

end LiveConfig.FileTree
