import LiveConfig.Proofs.FileTree.Changing
/-!
Reading the file at a path.

In a sound tree only a path to a name in a directory can be read, and what is read is what the name
stands for. So it is read again in every tree that has the directories of the tree and the same
under that name.
-/

set_option autoImplicit false

namespace LiveConfig.FileTree

variable {t u : FileTree} {slash : Bool} {segments here name parent : List String}
  {path last : String} {node : Node} {bytes : ByteArray}

def held (t : FileTree) : Node → ByteArray
  | .file id => t.content id
  | _ => .empty

theorem SameAt.symm (h : SameAt name t u) : SameAt name u t :=
  ⟨h.node.symm, fun id hid => (h.content id (h.node.symm.trans hid)).symm⟩

theorem SameAt.held (h : SameAt name t u) (hnode : t.node? name = some node) :
    u.held node = t.held node := by
  cases node with
  | file id => exact h.content id hnode
  | _ => rfl

theorem walk_passed (h : t.Sound) (hwalk : t.walk slash here segments = .ok (.passed name))
    (hne : segments ≠ []) : t.node? name = some .directory := by
  induction segments generalizing here with
  | nil => exact absurd rfl hne
  | cons s rest ih =>
      cases hnode : t.node? here with
      | none => simp [walk, hnode] at hwalk
      | some node =>
          cases node with
          | file id => simp [walk, hnode] at hwalk
          | sink => simp [walk, hnode] at hwalk
          | full => simp [walk, hnode] at hwalk
          | directory =>
              -- whatever the segment stands for, the walk ends there or goes on from there
              have hnext : ∀ next, t.walk slash next rest = .ok (.passed name) →
                  (rest = [] → t.node? next = some .directory) →
                  t.node? name = some .directory := by
                intro next hrest hdir
                by_cases hlast : rest = []
                · subst hlast
                  cases hrest
                  exact hdir rfl
                · exact ih hrest hlast
              simp only [walk, hnode] at hwalk
              split_ifs at hwalk with hdot hup hlast hlong
              · exact hnext here hwalk fun _ => hnode
              · refine hnext here.dropLast hwalk fun _ => ?_
                by_cases hroot : here = []
                · rw [hroot]
                  exact h.root
                · refine h.parents here _ (by rw [hnode]; rfl) (List.dropLast_prefix here) ?_
                  intro heq
                  have hlen := congrArg List.length heq
                  have hpos := List.length_pos_iff.mpr hroot
                  rw [List.length_dropLast] at hlen
                  omega
              · cases hwalk
              · exact hnext _ hwalk fun hnil => absurd hnil hlast

theorem locate_passed (h : t.Sound) (hlocate : t.locate path = .ok (.passed name)) :
    t.node? name = some .directory := by
  obtain ⟨hempty, hwalk⟩ := walk_of_locate hlocate
  by_cases hnames : names (Path.split path.toList) = []
  · obtain ⟨first, rest, hsplit⟩ := List.exists_cons_of_ne_nil (Path.split_ne_nil path.toList)
    have hblank : ∀ s ∈ Path.split path.toList, s = [] := by
      intro s hs
      by_contra hne
      have hmem : String.ofList s ∈ names (Path.split path.toList) :=
        List.mem_map.mpr ⟨s, List.mem_filter.mpr ⟨hs, by simpa using hne⟩, rfl⟩
      rw [hnames] at hmem
      exact absurd hmem nofun
    have hfirst : first = [] := hblank first (hsplit ▸ List.mem_cons_self)
    have hslash : path.toList.head? = some '/' := by
      refine (Path.head?_eq_slash_iff hsplit).mpr ⟨hfirst, ?_⟩
      rintro rfl
      rw [hfirst] at hsplit
      rcases Path.getLast?_of_split (show _ = [] ++ [[]] from hsplit) with hnil | hlast
      · exact hempty (String.toList_eq_nil_iff.mp hnil)
      · obtain ⟨front, hfront⟩ := List.getLast?_eq_some_iff.mp hlast
        rw [hfront, Path.split_append_slash] at hsplit
        have hlen := congrArg List.length hsplit
        have hpos := List.length_pos_iff.mpr (Path.split_ne_nil front)
        simp only [List.length_append, List.length_singleton, Path.split] at hlen
        omega
    have habsolute : Path.isAbsolute path = true := by simp [Path.isAbsolute, hslash]
    rw [hnames, origin, if_pos habsolute] at hwalk
    cases hwalk
    exact h.root
  · exact walk_passed h hwalk hnames

theorem read_cases (h : t.Sound) (hread : t.read path = .ok bytes) :
    ∃ parent last node, t.locate path = .ok (.entry parent last false) ∧
      t.lookup (.entry parent last false) = .ok (some node) ∧ node ≠ .directory ∧
      t.held node = bytes := by
  rcases hlocate : t.locate path with fault | spot
  · simp [read, find, hlocate, Bind.bind, Except.bind] at hread
  rcases hlookup : t.lookup spot with fault | found
  · simp [read, find, hlocate, hlookup, Bind.bind, Except.bind] at hread
  rcases spot with name | ⟨parent, last, slash⟩
  · have hdir := locate_passed h hlocate
    simp [read, find, hlocate, lookup, hdir, Bind.bind, Except.bind] at hread
  cases found with
  | none => simp [read, find, hlocate, hlookup, Bind.bind, Except.bind] at hread
  | some node =>
      cases slash with
      | true =>
          cases node <;> simp [read, find, hlocate, hlookup, Bind.bind, Except.bind] at hread
      | false =>
          refine ⟨parent, last, node, rfl, hlookup, ?_, ?_⟩
          · rintro rfl
            simp [read, find, hlocate, hlookup, Bind.bind, Except.bind] at hread
          · cases node with
            | directory => simp [read, find, hlocate, hlookup, Bind.bind, Except.bind] at hread
            | _ =>
                simp only [read, find, hlocate, hlookup, Bind.bind, Except.bind] at hread
                exact Except.ok.inj hread

theorem read_of_lookup (hlocate : t.locate path = .ok (.entry parent last false))
    (hlookup : t.lookup (.entry parent last false) = .ok (some node)) (hnode : node ≠ .directory) :
    t.read path = .ok (t.held node) := by
  cases node with
  | directory => exact absurd rfl hnode
  | _ =>
      simp only [read, find, hlocate, hlookup, Bind.bind, Except.bind]
      rfl

/-- What was read at a name is read wherever the name stands for the same. -/
theorem read_of_sameAt (hkeeps : t.KeepsDirectories u)
    (hlocate : t.locate path = .ok (.entry parent last false))
    (hsame : SameAt (parent ++ [last]) t u) (h : t.Sound) (hread : t.read path = .ok bytes) :
    u.read path = .ok bytes := by
  obtain ⟨parent', last', node, hlocate', hlookup, hnode, hheld⟩ := read_cases h hread
  rw [hlocate] at hlocate'
  obtain ⟨rfl, rfl, -⟩ := Spot.entry.inj (Except.ok.inj hlocate')
  have hstands : t.node? (parent ++ [last]) = some node := (lookup_entry_eq hlookup).symm
  have hlookup' : u.lookup (.entry parent last false) = .ok (some node) := by
    rw [lookup_entry hlookup u, hsame.node, hstands]
  rw [read_of_lookup (hkeeps.locate hlocate) hlookup' hnode, hsame.held hstands, hheld]

end LiveConfig.FileTree
