import LiveConfig.Proofs.FileTree.Nodes
/-!
Opening the file at a path.

A file that was opened is there, so opening it again gives the same file and makes none. This stays
so in every tree that extends the tree.
-/

set_option autoImplicit false

namespace LiveConfig.FileTree

variable {t t' u : FileTree} {path : String} {node : Node}

/-- The path leads to a file or a device. -/
structure Opens (t : FileTree) (path : String) (node : Node) : Prop where
  leads : ∃ parent last, t.locate path = .ok (.entry parent last false) ∧
    t.lookup (.entry parent last false) = .ok (some node)
  proper : node ≠ .directory

theorem Opens.extends (h : Opens t path node) (hext : t.Extends t') : Opens t' path node := by
  obtain ⟨⟨parent, last, hlocate, hlookup⟩, hproper⟩ := h
  refine ⟨⟨parent, last, hext.keepsDirectories.locate hlocate, ?_⟩, hproper⟩
  rw [lookup_entry hlookup t', hext.names _ node (lookup_entry_eq hlookup).symm]

theorem Opens.openForWriting (h : Opens t path node) : t.openForWriting path = .ok (node, t) := by
  obtain ⟨⟨parent, last, hlocate, hlookup⟩, hproper⟩ := h
  cases node with
  | directory => exact absurd rfl hproper
  | _ => simp [FileTree.openForWriting, hlocate, hlookup, Bind.bind, Except.bind]

/-- An open either finds what it opens, or makes an empty file of a new number under a new name. -/
theorem openForWriting_cases (h : t.openForWriting path = .ok (node, t')) :
    (t' = t ∧ Opens t path node) ∨ ∃ parent last, t.locate path = .ok (.entry parent last false) ∧
      t.lookup (.entry parent last false) = .ok none ∧ node = .file t.freshId ∧
      t' = (t.setContent t.freshId .empty).bind (parent ++ [last]) (.file t.freshId) := by
  cases hlocate : t.locate path with
  | error fault => simp [FileTree.openForWriting, hlocate, Bind.bind, Except.bind] at h
  | ok spot =>
      rcases spot with name | ⟨parent, last, slash⟩
      · simp [FileTree.openForWriting, hlocate, Bind.bind, Except.bind] at h
      cases slash with
      | true => simp [FileTree.openForWriting, hlocate, Bind.bind, Except.bind] at h
      | false =>
          cases hlookup : t.lookup (.entry parent last false) with
          | error fault =>
              simp [FileTree.openForWriting, hlocate, hlookup, Bind.bind, Except.bind] at h
          | ok found =>
              cases found with
              | none =>
                  simp only [FileTree.openForWriting, hlocate, hlookup, Bind.bind, Except.bind,
                    Except.ok.injEq, Prod.mk.injEq] at h
                  exact .inr ⟨parent, last, rfl, hlookup, h.1.symm, h.2.symm⟩
              | some found =>
                  cases found with
                  | directory =>
                      simp [FileTree.openForWriting, hlocate, hlookup, Bind.bind, Except.bind] at h
                  | _ =>
                      simp only [FileTree.openForWriting, hlocate, hlookup, Bind.bind, Except.bind,
                        Except.ok.injEq, Prod.mk.injEq] at h
                      obtain ⟨rfl, rfl⟩ := h
                      exact .inl ⟨rfl, ⟨parent, last, hlocate, hlookup⟩, nofun⟩

theorem openForWriting_extends (h : t.openForWriting path = .ok (node, t')) : t.Extends t' := by
  rcases openForWriting_cases h with ⟨rfl, -⟩ | ⟨parent, last, -, hlookup, -, rfl⟩
  · exact .refl t'
  · have hfree : t.node? (parent ++ [last]) = none := (lookup_entry_eq hlookup).symm
    have hext := extends_bind (t := t.setContent t.freshId .empty) hfree (.file t.freshId)
    exact ⟨hext.cwd, hext.names⟩

theorem openForWriting_opens (h : t.openForWriting path = .ok (node, t')) :
    Opens t' path node := by
  have hext := openForWriting_extends h
  rcases openForWriting_cases h with ⟨rfl, hopens⟩ | ⟨parent, last, hlocate, hlookup, rfl, rfl⟩
  · exact hopens
  · refine ⟨⟨parent, last, hext.keepsDirectories.locate hlocate, ?_⟩, nofun⟩
    rw [lookup_entry hlookup, node?_bind, if_pos rfl]

theorem opens_of_openForWriting (h : t.openForWriting path = .ok (node, t)) : Opens t path node :=
  openForWriting_opens h

end LiveConfig.FileTree
