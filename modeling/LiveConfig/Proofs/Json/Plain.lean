import LiveConfig.Json.Basic
import Mathlib.Data.List.Basic
import Mathlib.Data.List.Induction
/-!
Plain values.

In a plain value the members of every object stand in ascending order of their names, each name once.
Making a value plain keeps what is found under every name, and leaves a plain value as it is.
-/

set_option autoImplicit false

namespace LiveConfig.Json

/-! ### Lists of members -/

/-- The members stand in ascending order of their names, each name once. -/
def Ascending (ms : List (String × Json)) : Prop := ms.Pairwise fun a b => a.1 < b.1

variable {ms : List (String × Json)} {m : String × Json} {n name : String} {v value : Json}

theorem Ascending.nodup (h : Ascending ms) : (ms.map (·.1)).Nodup := by
  rw [List.nodup_iff_pairwise_ne, List.pairwise_map]
  exact List.Pairwise.imp (fun hlt => String.ne_of_lt hlt) h

theorem of_mem_putMember (h : m ∈ putMember n v ms) : m = (n, v) ∨ m ∈ ms := by
  induction ms with
  | nil => exact .inl (List.mem_singleton.mp h)
  | cons a ms ih =>
      simp only [putMember] at h
      split at h
      · exact List.mem_cons.mp h
      · split at h
        · exact (List.mem_cons.mp h).imp_right (List.mem_cons_of_mem a)
        · rcases List.mem_cons.mp h with rfl | h
          · exact .inr List.mem_cons_self
          · exact (ih h).imp_right (List.mem_cons_of_mem a)

theorem Ascending.put (h : Ascending ms) (n : String) (v : Json) : Ascending (putMember n v ms) := by
  induction ms with
  | nil => exact List.pairwise_singleton _ _
  | cons a ms ih =>
      obtain ⟨hfirst, hms⟩ := List.pairwise_cons.mp h
      simp only [putMember]
      split
      · rename_i hlt
        refine List.pairwise_cons.mpr ⟨fun b hb => ?_, h⟩
        rcases List.mem_cons.mp hb with rfl | hb
        · exact hlt
        · exact String.lt_trans hlt (hfirst b hb)
      · split
        · rename_i heq
          exact List.pairwise_cons.mpr ⟨fun b hb => heq ▸ hfirst b hb, hms⟩
        · rename_i hlt hne
          refine List.pairwise_cons.mpr ⟨fun b hb => ?_, ih hms⟩
          rcases of_mem_putMember hb with rfl | hb
          · exact Std.lt_of_le_of_ne (String.not_lt.mp hlt) (Ne.symm hne)
          · exact hfirst b hb

theorem mem_cons_of_absent (h : ∀ w, (n, w) ∉ ms) : (name, value) ∈ (n, v) :: ms ↔
    if n = name then value = v else (name, value) ∈ ms := by
  rw [List.mem_cons, Prod.mk.injEq]
  by_cases hname : n = name
  · subst hname
    rw [if_pos rfl, or_iff_left (h value), and_iff_right rfl]
  · rw [if_neg hname, or_iff_right fun heq => hname heq.1.symm]

theorem Ascending.mem_put (h : Ascending ms) : (name, value) ∈ putMember n v ms ↔
    if n = name then value = v else (name, value) ∈ ms := by
  induction ms with
  | nil => exact mem_cons_of_absent fun w => List.not_mem_nil
  | cons a ms ih =>
      obtain ⟨hfirst, hms⟩ := List.pairwise_cons.mp h
      simp only [putMember]
      split
      · rename_i hlt
        refine mem_cons_of_absent fun w hw => ?_
        rcases List.mem_cons.mp hw with heq | hw
        · exact String.ne_of_lt hlt (congrArg Prod.fst heq)
        · exact String.lt_asymm hlt (hfirst _ hw)
      · split
        · rename_i heq
          have habsent : ∀ w, (n, w) ∉ ms := by
            intro w hw
            exact String.lt_irrefl _ (heq ▸ hfirst _ hw)
          rw [mem_cons_of_absent habsent]
          by_cases hname : n = name
          · rw [if_pos hname, if_pos hname]
          · have hother : (name, value) ≠ a := by
              rintro rfl
              exact hname heq
            rw [if_neg hname, if_neg hname, List.mem_cons, or_iff_right hother]
        · rename_i hlt hne
          rw [List.mem_cons, ih hms, List.mem_cons]
          by_cases hname : n = name
          · have hother : (name, value) ≠ a := by
              rintro rfl
              exact hne hname
            rw [if_pos hname, if_pos hname, or_iff_right hother]
          · rw [if_neg hname, if_neg hname]

theorem arrange_concat (ms : List (String × Json)) (m : String × Json) :
    arrange (ms ++ [m]) = putMember m.1 m.2 (arrange ms) := by
  rw [arrange, List.foldl_concat, arrange]

theorem get?_concat (ms : List (String × Json)) (m : String × Json) (name : String) :
    (record (ms ++ [m])).get? name = if m.1 = name then some m.2 else (record ms).get? name := by
  simp only [get?, members?, Option.bind_some, List.reverse_concat, List.find?_cons]
  by_cases h : m.1 = name <;> simp [h]

theorem ascending_arrange (ms : List (String × Json)) : Ascending (arrange ms) := by
  induction ms using List.reverseRecOn with
  | nil => exact List.Pairwise.nil
  | append_singleton ms m ih =>
      rw [arrange_concat]
      exact ih.put m.1 m.2

theorem mem_arrange : (name, value) ∈ arrange ms ↔ (record ms).get? name = some value := by
  induction ms using List.reverseRecOn with
  | nil => exact iff_of_false List.not_mem_nil nofun
  | append_singleton ms m ih =>
      rw [arrange_concat, (ascending_arrange ms).mem_put, get?_concat]
      by_cases h : m.1 = name
      · rw [if_pos h, if_pos h, Option.some.injEq, eq_comm]
      · rw [if_neg h, if_neg h, ih]

theorem mem_of_mem_arrange (h : m ∈ arrange ms) : m ∈ ms := by
  induction ms using List.reverseRecOn with
  | nil => exact h
  | append_singleton ms a ih =>
      rw [arrange_concat] at h
      rcases of_mem_putMember h with rfl | h
      · exact List.mem_concat_self
      · exact List.mem_append_left [a] (ih h)

theorem mem_names_arrange : name ∈ (arrange ms).map (·.1) ↔ name ∈ ms.map (·.1) := by
  constructor
  · intro h
    obtain ⟨m, hm, rfl⟩ := List.mem_map.mp h
    exact List.mem_map_of_mem (mem_of_mem_arrange hm)
  · intro h
    obtain ⟨m, hm, rfl⟩ := List.mem_map.mp h
    have hfound : (ms.reverse.find? (·.1 = m.1)).isSome = true := by
      rw [List.find?_isSome]
      exact ⟨m, List.mem_reverse.mpr hm, decide_eq_true rfl⟩
    obtain ⟨found, hfound⟩ := Option.isSome_iff_exists.mp hfound
    have hget : (record ms).get? m.1 = some found.2 := by
      simp only [get?, members?, Option.bind_some, hfound, Option.map_some]
    exact List.mem_map.mpr ⟨(m.1, found.2), mem_arrange.mpr hget, rfl⟩

theorem putMember_of_lt (h : ∀ a ∈ ms, a.1 < n) : putMember n v ms = ms ++ [(n, v)] := by
  induction ms with
  | nil => rfl
  | cons a ms ih =>
      have hlt := h a List.mem_cons_self
      rw [putMember, if_neg (String.lt_asymm hlt), if_neg (String.ne_of_lt hlt).symm,
        ih fun b hb => h b (List.mem_cons_of_mem a hb), List.cons_append]

theorem Ascending.arrange_eq (h : Ascending ms) : arrange ms = ms := by
  induction ms using List.reverseRecOn with
  | nil => rfl
  | append_singleton ms m ih =>
      obtain ⟨hms, -, hlast⟩ := List.pairwise_append.mp h
      have hlt : ∀ a ∈ ms, a.1 < m.1 := fun a ha => hlast a ha m List.mem_cons_self
      rw [arrange_concat, ih hms, putMember_of_lt hlt]

/-! ### Values -/

mutual

/-- In every object the members stand in ascending order of their names, each name once. -/
def IsPlain : Json → Prop
  | .null | .bool _ | .number _ | .text _ => True
  | .list items => IsPlainItems items
  | .record ms => Ascending ms ∧ IsPlainMembers ms

def IsPlainItems : List Json → Prop
  | [] => True
  | j :: items => IsPlain j ∧ IsPlainItems items

def IsPlainMembers : List (String × Json) → Prop
  | [] => True
  | (_, j) :: ms => IsPlain j ∧ IsPlainMembers ms

end

mutual

theorem plain_eq : ∀ {j : Json}, j.IsPlain → j.plain = j
  | .null, _ | .bool _, _ | .number _, _ | .text _, _ => rfl
  | .list items, h => by rw [plain, plainItems_eq h]
  | .record ms, ⟨hascending, hms⟩ => by rw [plain, plainMembers_eq hms, hascending.arrange_eq]

theorem plainItems_eq : ∀ {items : List Json}, IsPlainItems items → plainItems items = items
  | [], _ => rfl
  | j :: items, ⟨hj, hitems⟩ => by rw [plainItems, plain_eq hj, plainItems_eq hitems]

theorem plainMembers_eq : ∀ {ms : List (String × Json)}, IsPlainMembers ms → plainMembers ms = ms
  | [], _ => rfl
  | (n, j) :: ms, ⟨hj, hms⟩ => by rw [plainMembers, plain_eq hj, plainMembers_eq hms]

end

theorem plainMembers_eq_map (ms : List (String × Json)) :
    plainMembers ms = ms.map fun m => (m.1, m.2.plain) := by
  induction ms with
  | nil => rfl
  | cons m ms ih => rw [plainMembers, ih, List.map_cons]

theorem names_plainMembers (ms : List (String × Json)) :
    (plainMembers ms).map (·.1) = ms.map (·.1) := by
  rw [plainMembers_eq_map, List.map_map]
  rfl

theorem get?_plainMembers (ms : List (String × Json)) (name : String) :
    (record (plainMembers ms)).get? name = ((record ms).get? name).map plain := by
  rw [plainMembers_eq_map]
  induction ms using List.reverseRecOn with
  | nil => rfl
  | append_singleton ms m ih =>
      rw [List.map_append, List.map_singleton, get?_concat, get?_concat, ih]
      by_cases h : m.1 = name
      · rw [if_pos h, if_pos h, Option.map_some]
      · rw [if_neg h, if_neg h]

end LiveConfig.Json
