/-!
Settings: a map from keys to texts.

The entries stand in ascending order of their keys, each key once, so two maps with the same
values are equal. Every operation is described through `get?`.
-/

set_option autoImplicit false

namespace LiveConfig

structure Settings where
  entries : List (String × String)
  ascending : entries.Pairwise (fun a b => a.1 < b.1)

namespace Settings

def empty : Settings := ⟨[], List.Pairwise.nil⟩

instance : EmptyCollection Settings := ⟨empty⟩
instance : Inhabited Settings := ⟨empty⟩

def get? (m : Settings) (k : String) : Option String := m.entries.lookup k

def keys (m : Settings) : List String := m.entries.map (·.1)

def put (k v : String) : List (String × String) → List (String × String)
  | [] => [(k, v)]
  | e :: l =>
      if k < e.1 then (k, v) :: e :: l
      else if k = e.1 then (k, v) :: l
      else e :: put k v l

private theorem key_of_mem_put {k v : String} {l : List (String × String)} {e : String × String}
    (h : e ∈ put k v l) : e.1 = k ∨ e ∈ l := by
  induction l with
  | nil => simp only [put, List.mem_singleton] at h; exact .inl (by rw [h])
  | cons a l ih =>
      simp only [put] at h
      split at h
      · simp only [List.mem_cons] at h ⊢
        rcases h with rfl | h
        · exact .inl rfl
        · exact .inr h
      · split at h
        · simp only [List.mem_cons] at h ⊢
          rcases h with rfl | h
          · exact .inl rfl
          · exact .inr (.inr h)
        · simp only [List.mem_cons] at h ⊢
          rcases h with rfl | h
          · exact .inr (.inl rfl)
          · exact (ih h).imp_right .inr

private theorem lt_of_not_lt_of_ne {a b : String} (h : ¬a < b) (hne : a ≠ b) : b < a := by
  apply Decidable.byContradiction
  intro hn
  exact hne (String.le_antisymm (String.not_lt.mp hn) (String.not_lt.mp h))

private theorem put_ascending {k v : String} {l : List (String × String)}
    (h : l.Pairwise (fun a b => a.1 < b.1)) :
    (put k v l).Pairwise (fun a b => a.1 < b.1) := by
  induction l with
  | nil => simp [put]
  | cons e l ih =>
      have ⟨he, hl⟩ := List.pairwise_cons.mp h
      simp only [put]
      split
      case isTrue hk =>
        refine List.pairwise_cons.mpr ⟨?_, h⟩
        intro a ha
        rcases List.mem_cons.mp ha with rfl | ha
        · exact hk
        · exact String.lt_trans hk (he a ha)
      case isFalse hk =>
        split
        case isTrue hke =>
          refine List.pairwise_cons.mpr ⟨?_, hl⟩
          intro a ha
          exact hke ▸ he a ha
        case isFalse hke =>
          refine List.pairwise_cons.mpr ⟨?_, ih hl⟩
          intro a ha
          rcases key_of_mem_put ha with rfl | ha
          · exact lt_of_not_lt_of_ne hk hke
          · exact he a ha

def insert (m : Settings) (k v : String) : Settings :=
  ⟨put k v m.entries, put_ascending m.ascending⟩

def erase (m : Settings) (k : String) : Settings :=
  ⟨m.entries.filter (·.1 ≠ k), m.ascending.filter _⟩

def mapValues (f : String → String) (m : Settings) : Settings where
  entries := m.entries.map fun e => (e.1, f e.2)
  ascending := by
    rw [List.pairwise_map]
    exact m.ascending

/-- The map of the given entries; of entries with one key the last stands. -/
def ofList (l : List (String × String)) : Settings := l.foldl (fun m e => m.insert e.1 e.2) ∅

private theorem lookup_pair (a b x : String) (l : List (String × String)) :
    ((a, b) :: l).lookup x = if x = a then some b else l.lookup x := by
  by_cases h : x = a
  · simp [h]
  · have hne : (x == a) = false := by simpa using h
    simp [List.lookup_cons, hne, h]

private theorem lookup_put (k v x : String) (l : List (String × String)) :
    (put k v l).lookup x = if x = k then some v else l.lookup x := by
  induction l with
  | nil => exact lookup_pair k v x []
  | cons e l ih =>
      obtain ⟨a, b⟩ := e
      simp only [put]
      split
      case isTrue => exact lookup_pair k v x _
      case isFalse =>
        split
        case isTrue hk =>
          obtain rfl : k = a := hk
          simp only [lookup_pair]
          split <;> rfl
        case isFalse hk =>
          have hne : k ≠ a := hk
          simp only [lookup_pair, ih]
          by_cases hx : x = a
          · have hxk : x ≠ k := fun h => hne (h.symm.trans hx)
            rw [if_pos hx, if_neg hxk, if_pos hx]
          · rw [if_neg hx, if_neg hx]

theorem get?_empty (k : String) : (∅ : Settings).get? k = none := rfl

theorem get?_insert (m : Settings) (k v x : String) :
    (m.insert k v).get? x = if x = k then some v else m.get? x :=
  lookup_put k v x m.entries

theorem get?_erase (m : Settings) (k x : String) :
    (m.erase k).get? x = if x = k then none else m.get? x := by
  simp only [get?, erase]
  induction m.entries with
  | nil => simp
  | cons e l ih =>
      obtain ⟨a, b⟩ := e
      by_cases ha : a = k
      · rw [List.filter_cons_of_neg (by simpa using ha), ih, lookup_pair]
        by_cases hx : x = k
        · rw [if_pos hx, if_pos hx]
        · rw [if_neg hx, if_neg hx, if_neg (fun h => hx (h.trans ha))]
      · rw [List.filter_cons_of_pos (by simpa using ha), lookup_pair, lookup_pair, ih]
        by_cases hx : x = k
        · rw [if_pos hx, if_neg (fun h => ha (h.symm.trans hx)), if_pos hx]
        · rw [if_neg hx, if_neg hx]

theorem get?_mapValues (m : Settings) (f : String → String) (k : String) :
    (m.mapValues f).get? k = (m.get? k).map f := by
  simp only [get?, mapValues]
  induction m.entries with
  | nil => rfl
  | cons e l ih =>
      obtain ⟨a, b⟩ := e
      rw [List.map_cons, lookup_pair, lookup_pair, ih]
      split <;> rfl

end Settings

end LiveConfig
