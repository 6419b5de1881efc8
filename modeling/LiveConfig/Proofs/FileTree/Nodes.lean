import LiveConfig.FileTree
import Mathlib.Data.List.Basic
import Mathlib.Tactic.SplitIfs
/-!
What the nodes and the contents of a tree are after it was changed at one name or one file.

A tree extends another when every name of the other still stands for what it did. Paths that lead
somewhere lead there in every tree that extends theirs.
-/

set_option autoImplicit false

namespace LiveConfig

theorem lookup_cons_eq {α β : Type} [BEq α] [LawfulBEq α] [DecidableEq α] (e : α × β)
    (l : List (α × β)) (k : α) :
    (e :: l).lookup k = if k = e.1 then some e.2 else l.lookup k := by
  by_cases h : k = e.1
  · rw [List.lookup_cons, h, beq_self_eq_true, if_pos rfl]
  · have hne : (k == e.1) = false := by simpa using h
    rw [List.lookup_cons, hne, if_neg h]

theorem lookup_filter_of_ne {α β : Type} [BEq α] [LawfulBEq α] [DecidableEq α] (l : List (α × β))
    {k k' : α} (h : k' ≠ k) : (l.filter (·.1 ≠ k)).lookup k' = l.lookup k' := by
  induction l with
  | nil => rfl
  | cons e rest ih =>
      by_cases hk : e.1 = k
      · rw [List.filter_cons_of_neg (by simpa using hk), ih, lookup_cons_eq, if_neg (hk ▸ h)]
      · rw [List.filter_cons_of_pos (by simpa using hk), lookup_cons_eq, lookup_cons_eq, ih]

theorem lookup_filter_self {α β : Type} [BEq α] [LawfulBEq α] [DecidableEq α] (l : List (α × β))
    (k : α) :
    (l.filter (·.1 ≠ k)).lookup k = none := by
  refine List.lookup_eq_none_iff.mpr fun e he => ?_
  have hne : e.1 ≠ k := by simpa using (List.mem_filter.mp he).2
  simpa using Ne.symm hne

theorem lookup_map_const {α β γ : Type} [BEq β] [LawfulBEq β] [DecidableEq β] (f : α → β) (c : γ)
    (l : List α) (k : β) :
    (l.map fun a => (f a, c)).lookup k = if k ∈ l.map f then some c else none := by
  induction l with
  | nil => rfl
  | cons a rest ih =>
      rw [List.map_cons, lookup_cons_eq, ih]
      by_cases hk : k = f a
      · rw [if_pos hk, if_pos (hk ▸ List.mem_cons_self)]
      · simp only [hk, if_false, List.map_cons, List.mem_cons, false_or]

namespace FileTree

variable {t t' : FileTree} {name : List String} {node : Node} {id : Nat}

/-! ### Names -/

theorem node?_bind (t : FileTree) (name name' : List String) (node : Node) :
    (t.bind name node).node? name' = if name' = name then some node else t.node? name' := by
  simp only [bind, node?, lookup_cons_eq]
  by_cases h : name' = name
  · rw [if_pos h, if_pos h]
  · rw [if_neg h, if_neg h, lookup_filter_of_ne t.nodes h]

theorem node?_unbind (t : FileTree) (name name' : List String) :
    (t.unbind name).node? name' = if name' = name then none else t.node? name' := by
  by_cases h : name' = name
  · rw [if_pos h, h]
    exact lookup_filter_self t.nodes name
  · rw [if_neg h]
    exact lookup_filter_of_ne t.nodes h

@[simp] theorem node?_setContent (t : FileTree) (id : Nat) (content : ByteArray)
    (name : List String) : (t.setContent id content).node? name = t.node? name := rfl

/-! ### Contents -/

theorem content_setContent (t : FileTree) (id id' : Nat) (content : ByteArray) :
    (t.setContent id content).content id' = if id' = id then content else t.content id' := by
  simp only [setContent, FileTree.content, lookup_cons_eq]
  by_cases h : id' = id
  · rw [if_pos h, if_pos h, Option.getD_some]
  · rw [if_neg h, if_neg h, lookup_filter_of_ne t.contents h]

@[simp] theorem content_bind (t : FileTree) (name : List String) (node : Node) (id : Nat) :
    (t.bind name node).content id = t.content id := rfl

/-! ### Spots -/

theorem lookup_entry {parent : List String} {last : String} {slash : Bool} {found : Option Node}
    (h : t.lookup (.entry parent last slash) = .ok found) (t' : FileTree) :
    t'.lookup (.entry parent last slash) = .ok (t'.node? (parent ++ [last])) := by
  simp only [lookup] at h ⊢
  split at h
  · exact absurd h nofun
  · rename_i hshort
    rw [if_neg hshort]

theorem lookup_entry_eq {parent : List String} {last : String} {slash : Bool}
    {found : Option Node} (h : t.lookup (.entry parent last slash) = .ok found) :
    found = t.node? (parent ++ [last]) := by
  have hfound := lookup_entry h t
  rw [h] at hfound
  exact Except.ok.inj hfound

/-! ### Trees with the directories of a tree -/

structure KeepsDirectories (t t' : FileTree) : Prop where
  cwd : t'.cwd = t.cwd
  directories : ∀ name, t.node? name = some .directory → t'.node? name = some .directory

theorem KeepsDirectories.refl (t : FileTree) : t.KeepsDirectories t := ⟨rfl, fun _ h => h⟩

theorem KeepsDirectories.trans {u : FileTree} (h : t.KeepsDirectories t')
    (h' : t'.KeepsDirectories u) : t.KeepsDirectories u :=
  ⟨h'.cwd.trans h.cwd, fun name hdir => h'.directories name (h.directories name hdir)⟩

/-- Nothing but directories matters on the way to a spot. -/
theorem KeepsDirectories.walk (h : t.KeepsDirectories t') {slash : Bool}
    {segments here : List String} {spot : Spot} (hwalk : t.walk slash here segments = .ok spot) :
    t'.walk slash here segments = .ok spot := by
  induction segments generalizing here with
  | nil => exact hwalk
  | cons s rest ih =>
      cases hnode : t.node? here with
      | none => simp [FileTree.walk, hnode] at hwalk
      | some node =>
          cases node with
          | directory =>
              simp only [FileTree.walk, hnode, h.directories here hnode] at hwalk ⊢
              split_ifs at hwalk ⊢ with hdot hup hlast hlong
              · exact ih hwalk
              · exact ih hwalk
              · exact hwalk
              · exact ih hwalk
          | file id => simp [FileTree.walk, hnode] at hwalk
          | sink => simp [FileTree.walk, hnode] at hwalk
          | full => simp [FileTree.walk, hnode] at hwalk

theorem KeepsDirectories.locate (h : t.KeepsDirectories t') {path : String} {spot : Spot}
    (hpath : t.locate path = .ok spot) : t'.locate path = .ok spot := by
  simp only [FileTree.locate, h.cwd] at hpath ⊢
  split_ifs at hpath ⊢ with hnul hempty hlong hroot
  · exact h.walk hpath
  · exact h.walk hpath

/-- Every name still stands for what it did. -/
structure Extends (t t' : FileTree) : Prop where
  cwd : t'.cwd = t.cwd
  names : ∀ name node, t.node? name = some node → t'.node? name = some node

theorem Extends.refl (t : FileTree) : t.Extends t := ⟨rfl, fun _ _ h => h⟩

theorem Extends.keepsDirectories (h : t.Extends t') : t.KeepsDirectories t' :=
  ⟨h.cwd, fun name => h.names name .directory⟩

theorem extends_setContent (t : FileTree) (id : Nat) (content : ByteArray) :
    t.Extends (t.setContent id content) := ⟨rfl, fun _ _ h => h⟩

theorem extends_bind (h : t.node? name = none) (node : Node) : t.Extends (t.bind name node) := by
  refine ⟨rfl, fun name' node' hnode => ?_⟩
  have hne : name' ≠ name := by
    rintro rfl
    rw [h] at hnode
    exact absurd hnode nofun
  rw [node?_bind, if_neg hne]
  exact hnode

end FileTree

end LiveConfig
