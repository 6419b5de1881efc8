import LiveConfig.Proofs.FileTree.Opening
import LiveConfig.Proofs.FileTree.Walking
/-!
Sound trees.

In a sound tree names lie in directories and every file has one name. Writing, renaming and removing
files keeps a tree sound and its directories as they are, and changes nothing under other names.
-/

set_option autoImplicit false

namespace LiveConfig

theorem lookup_rekey {α β : Type} [BEq α] [LawfulBEq α] [DecidableEq α] {old new : α}
    (hne : old ≠ new) (l : List (α × β)) (k : α) :
    ((l.filter (·.1 ≠ new)).map fun e => if e.1 = old then (new, e.2) else e).lookup k =
      if k = new then l.lookup old else if k = old then none else l.lookup k := by
  induction l with
  | nil => split_ifs <;> rfl
  | cons e rest ih =>
      rw [lookup_cons_eq e rest old, lookup_cons_eq e rest k]
      by_cases hnew : e.1 = new
      · rw [List.filter_cons_of_neg (by simpa using hnew), ih, hnew, if_neg hne]
        by_cases hk : k = new
        · rw [if_pos hk, if_pos hk]
        · rw [if_neg hk, if_neg hk, if_neg hk]
      · rw [List.filter_cons_of_pos (by simpa using hnew), List.map_cons, lookup_cons_eq, ih]
        by_cases hold : e.1 = old
        · rw [if_pos hold, if_pos hold.symm]
          by_cases hk : k = new
          · rw [if_pos hk, if_pos hk]
          · rw [if_neg hk, if_neg hk, if_neg hk, hold]
            by_cases hkold : k = old
            · rw [if_pos hkold, if_pos hkold]
            · rw [if_neg hkold, if_neg hkold, if_neg hkold]
        · rw [if_neg hold, if_neg (Ne.symm hold)]
          by_cases hk : k = new
          · rw [if_pos hk, if_pos hk, if_neg (fun heq => hnew (heq.symm.trans hk))]
          · rw [if_neg hk, if_neg hk]
            by_cases hkold : k = old
            · rw [if_pos hkold, if_pos hkold, if_neg (fun heq => hold (heq.symm.trans hkold))]
            · rw [if_neg hkold, if_neg hkold]

namespace FileTree

/-- Names lie in directories, no two names stand for the same file, and every file has a content
under its number. -/
structure Sound (t : FileTree) : Prop where
  root : t.node? [] = some .directory
  parents : ∀ name p, (t.node? name).isSome = true → p <+: name → p ≠ name →
    t.node? p = some .directory
  own : ∀ a b id, t.node? a = some (.file id) → t.node? b = some (.file id) → a = b
  stored : ∀ a id, t.node? a = some (.file id) → id ∈ t.contents.map Prod.fst

variable {t t' : FileTree} {name parent : List String} {last : String} {id : Nat}

theorem lt_freshId (h : id ∈ t.contents.map Prod.fst) : id < t.freshId := by
  have hfold : ∀ (l : List (Nat × ByteArray)) (n : Nat),
      n ≤ l.foldl (fun n e => max n (e.1 + 1)) n ∧
        ∀ i ∈ l.map Prod.fst, i < l.foldl (fun n e => max n (e.1 + 1)) n := by
    intro l
    induction l with
    | nil => exact fun n => ⟨Nat.le_refl n, nofun⟩
    | cons e rest ih =>
        intro n
        obtain ⟨hle, hlt⟩ := ih (max n (e.1 + 1))
        refine ⟨Nat.le_trans (Nat.le_max_left _ _) hle, fun i hi => ?_⟩
        rcases List.mem_cons.mp hi with rfl | hi
        · exact Nat.lt_of_lt_of_le (Nat.lt_succ_self _)
            (Nat.le_trans (Nat.le_max_right _ _) hle)
        · exact hlt i hi
  exact (hfold t.contents 0).2 id h

theorem mem_contents_setContent (t : FileTree) (id : Nat) (content : ByteArray) {i : Nat}
    (h : i = id ∨ i ∈ t.contents.map Prod.fst) :
    i ∈ (t.setContent id content).contents.map Prod.fst := by
  by_cases hi : i = id
  · rw [hi]
    exact List.mem_cons_self
  · obtain ⟨e, he, rfl⟩ := List.mem_map.mp (h.resolve_left hi)
    exact List.mem_cons_of_mem _ (List.mem_map.mpr ⟨e, List.mem_filter.mpr ⟨he, by simpa⟩, rfl⟩)

theorem Sound.above (h : t.Sound) (hparent : t.node? parent = some .directory) {p : List String}
    (hp : p <+: parent ++ [last]) (hne : p ≠ parent ++ [last]) : t.node? p = some .directory := by
  have hprefix : p <+: parent := by
    rcases List.prefix_concat_iff.mp hp with heq | hprefix
    · exact absurd heq hne
    · exact hprefix
  by_cases hsame : p = parent
  · rw [hsame, hparent]
  · exact h.parents parent p (by rw [hparent]; rfl) hprefix hsame

/-! ### Changes that keep a tree sound -/

theorem Sound.setContent (h : t.Sound) (id : Nat) (content : ByteArray) :
    (t.setContent id content).Sound where
  root := h.root
  parents := h.parents
  own := h.own
  stored := fun a i hi => mem_contents_setContent t id content (.inr (h.stored a i hi))

theorem Sound.create (h : t.Sound) (hparent : t.node? parent = some .directory)
    (hfree : t.node? (parent ++ [last]) = none) :
    ((t.setContent t.freshId .empty).bind (parent ++ [last]) (.file t.freshId)).Sound := by
  have hfresh : ∀ a, t.node? a ≠ some (.file t.freshId) := fun a ha =>
    Nat.lt_irrefl _ (lt_freshId (h.stored a _ ha))
  have hbind : ∀ a, ((t.setContent t.freshId .empty).bind (parent ++ [last])
      (.file t.freshId)).node? a =
        if a = parent ++ [last] then some (.file t.freshId) else t.node? a := fun a =>
    node?_bind (t.setContent t.freshId .empty) (parent ++ [last]) a (.file t.freshId)
  refine ⟨?_, ?_, ?_, ?_⟩
  · rw [hbind, if_neg (by simp)]
    exact h.root
  · intro name p hname hp hne
    have hdir : t.node? p = some .directory := by
      rw [hbind] at hname
      split_ifs at hname with hsame
      · subst hsame
        exact h.above hparent hp hne
      · exact h.parents name p hname hp hne
    rw [hbind, if_neg, hdir]
    rintro rfl
    rw [hfree] at hdir
    exact absurd hdir nofun
  · intro a b i ha hb
    rw [hbind] at ha hb
    split_ifs at ha hb with hna hnb hnb
    · rw [hna, hnb]
    · obtain rfl : t.freshId = i := Node.file.inj (Option.some.inj ha)
      exact absurd hb (hfresh b)
    · obtain rfl : t.freshId = i := Node.file.inj (Option.some.inj hb)
      exact absurd ha (hfresh a)
    · exact h.own a b i ha hb
  · intro a i ha
    refine mem_contents_setContent t t.freshId .empty ?_
    rw [hbind] at ha
    split_ifs at ha with hna
    · exact .inl (Node.file.inj (Option.some.inj ha)).symm
    · exact .inr (h.stored a i ha)

theorem Sound.unbind (h : t.Sound) (hname : t.node? name ≠ some .directory) :
    (t.unbind name).Sound := by
  refine ⟨?_, ?_, ?_, ?_⟩
  · rw [node?_unbind, if_neg]
    · exact h.root
    · rintro rfl
      exact hname h.root
  · intro other p hother hp hne
    rw [node?_unbind] at hother
    split_ifs at hother with hsame
    · exact absurd hother nofun
    have hdir := h.parents other p hother hp hne
    rw [node?_unbind, if_neg, hdir]
    rintro rfl
    exact hname hdir
  · intro a b i ha hb
    rw [node?_unbind] at ha hb
    split_ifs at ha hb
    exact h.own a b i ha hb
  · intro a i ha
    rw [node?_unbind] at ha
    split_ifs at ha
    exact h.stored a i ha

/-! ### Trees to start from -/

theorem node?_start (cwd name : List String) :
    (start cwd).node? name =
      (standing.lookup name).or (if name ≠ [] ∧ name <+: cwd then some .directory else none) := by
  have hway : name ∈ (List.range cwd.length).map (fun n => cwd.take (n + 1)) ↔
      name ≠ [] ∧ name <+: cwd := by
    rw [List.mem_map]
    constructor
    · rintro ⟨n, hn, rfl⟩
      have hlt := List.mem_range.mp hn
      refine ⟨?_, List.take_prefix _ _⟩
      rw [← List.length_pos_iff, List.length_take]
      omega
    · rintro ⟨hne, hpre⟩
      have hpos := List.length_pos_iff.mpr hne
      refine ⟨name.length - 1, List.mem_range.mpr ?_, ?_⟩
      · have hle := hpre.length_le
        omega
      · rw [Nat.sub_add_cancel hpos, ← List.prefix_iff_eq_take.mp hpre]
  rw [node?, start, List.lookup_append, lookup_map_const]
  simp only [hway]

theorem node?_start_of_prefix {cwd p : List String} (h : ¬ ["dev"] <+: cwd) (hp : p <+: cwd) :
    (start cwd).node? p = some .directory := by
  have hdev : ∀ rest, p ≠ "dev" :: rest := by
    rintro rest rfl
    exact h ((List.prefix_append ["dev"] rest).trans hp)
  by_cases hnil : p = []
  · rw [hnil]
    rfl
  · rw [node?_start, if_pos ⟨hnil, hp⟩]
    simp only [standing, lookup_cons_eq, List.lookup_nil, if_neg hnil, if_neg (hdev _),
      Option.none_or]

/-- A tree to start from is sound, unless its directory to work in lies below the devices. -/
theorem sound_start {cwd : List String} (h : ¬ ["dev"] <+: cwd) : (start cwd).Sound := by
  have hname : ∀ name node, (start cwd).node? name = some node → (∀ id, node ≠ .file id) ∧
      (name <+: ["dev", "null"] ∨ name <+: ["dev", "full"] ∨ name <+: cwd) := by
    intro name node hnode
    rw [node?_start] at hnode
    rcases Option.or_eq_some_iff.mp hnode with hstanding | ⟨-, hway⟩
    · simp only [standing, lookup_cons_eq, List.lookup_nil] at hstanding
      split_ifs at hstanding with h₁ h₂ h₃ h₄
      all_goals
        subst name
        obtain rfl := Option.some.inj hstanding
        exact ⟨nofun, or_assoc.mp (.inl (by decide))⟩
    · split_ifs at hway with hpre
      obtain rfl := Option.some.inj hway
      exact ⟨nofun, .inr (.inr hpre.2)⟩
  have hdevice : ∀ last p, p <+: ["dev", last] → p ≠ ["dev", last] →
      (start cwd).node? p = some .directory := by
    intro last p hp hne
    have hp' := (List.prefix_concat_iff.mp (show p <+: ["dev"] ++ [last] from hp)).resolve_left hne
    rcases List.prefix_concat_iff.mp (show p <+: [] ++ ["dev"] from hp') with rfl | hnil
    · rfl
    · rw [List.prefix_nil.mp hnil]
      rfl
  refine ⟨rfl, fun name p hsome hp hne => ?_, fun a b id ha => ?_, fun a id ha => ?_⟩
  · obtain ⟨node, hnode⟩ := Option.isSome_iff_exists.mp hsome
    have hstrict : ∀ whole : List String, name <+: whole → p ≠ whole := fun whole hpre heq =>
      hne (hp.eq_of_length_le (heq ▸ hpre.length_le))
    obtain ⟨-, hpre | hpre | hpre⟩ := hname name node hnode
    · exact hdevice "null" p (hp.trans hpre) (hstrict _ hpre)
    · exact hdevice "full" p (hp.trans hpre) (hstrict _ hpre)
    · exact node?_start_of_prefix h (hp.trans hpre)
  · exact absurd rfl ((hname a _ ha).1 id)
  · exact absurd rfl ((hname a _ ha).1 id)

end FileTree

end LiveConfig
