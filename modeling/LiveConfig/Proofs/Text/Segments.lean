import LiveConfig.Text.Path
import Mathlib.Data.List.Basic
import Mathlib.Data.List.TakeWhile
/-!
Paths and their segments.

A path is its segments with slashes between them. If its last segment is a proper name, that is its
file name, and the path of its directory has the segments before it.
-/

set_option autoImplicit false

namespace LiveConfig.Path

/-- A segment that names something in a directory. -/
structure Proper (s : List Char) : Prop where
  named : s ≠ []
  notHere : s ≠ ['.']
  notUp : s ≠ ['.', '.']
  plain : '/' ∉ s

/-! ### Splitting -/

theorem split_cons_ne {c : Char} (h : c ≠ '/') (l : List Char) :
    split (c :: l) = match split l with
      | [] => [[c]]
      | s :: rest => (c :: s) :: rest := by
  exact split.eq_3 c l fun hc => absurd hc h

theorem split_ne_nil (l : List Char) : split l ≠ [] := by
  induction l with
  | nil => exact nofun
  | cons c l ih =>
      by_cases hc : c = '/'
      · rw [hc, split]
        exact nofun
      · rw [split_cons_ne hc]
        cases split l <;> exact nofun

theorem split_append_slash (a b : List Char) : split (a ++ '/' :: b) = split a ++ split b := by
  induction a with
  | nil => rfl
  | cons c a ih =>
      by_cases hc : c = '/'
      · rw [hc, List.cons_append, split, split, ih, List.cons_append]
      · rw [List.cons_append, split_cons_ne hc, split_cons_ne hc, ih]
        cases hsplit : split a with
        | nil => exact absurd hsplit (split_ne_nil a)
        | cons s rest => rfl

theorem split_of_plain {s : List Char} (h : '/' ∉ s) : split s = [s] := by
  induction s with
  | nil => rfl
  | cons c s ih =>
      have hc : c ≠ '/' := fun heq => h (heq ▸ List.mem_cons_self)
      rw [split_cons_ne hc, ih fun hmem => h (List.mem_cons_of_mem c hmem)]

theorem plain_of_mem_split {l s : List Char} (h : s ∈ split l) : '/' ∉ s := by
  induction l generalizing s with
  | nil =>
      rw [List.mem_singleton.mp h]
      exact nofun
  | cons c l ih =>
      by_cases hc : c = '/'
      · rw [hc, split] at h
        rcases List.mem_cons.mp h with rfl | h
        · exact nofun
        · exact ih h
      · rw [split_cons_ne hc] at h
        cases hsplit : split l with
        | nil => exact absurd hsplit (split_ne_nil l)
        | cons first rest =>
            rw [hsplit] at h ih
            rcases List.mem_cons.mp h with rfl | h
            · have hfirst := ih List.mem_cons_self
              simp only [List.mem_cons, not_or]
              exact ⟨Ne.symm hc, hfirst⟩
            · exact ih (List.mem_cons_of_mem _ h)

theorem split_intercalate {l : List (List Char)} (hne : l ≠ []) (h : ∀ s ∈ l, '/' ∉ s) :
    split (List.intercalate ['/'] l) = l := by
  induction l with
  | nil => exact absurd rfl hne
  | cons s rest ih =>
      cases rest with
      | nil =>
          rw [List.intercalate_singleton]
          exact split_of_plain (h s List.mem_cons_self)
      | cons s' rest =>
          have hrest := ih nofun fun u hu => h u (List.mem_cons_of_mem s hu)
          rw [List.intercalate_cons_cons, List.append_assoc, List.singleton_append,
            split_append_slash, split_of_plain (h s List.mem_cons_self), hrest]
          rfl

theorem head?_eq_slash_iff {l first : List Char} {rest : List (List Char)}
    (h : split l = first :: rest) : l.head? = some '/' ↔ first = [] ∧ rest ≠ [] := by
  cases l with
  | nil =>
      obtain ⟨rfl, rfl⟩ := List.cons.inj h
      simp
  | cons c l =>
      by_cases hc : c = '/'
      · rw [hc, split] at h
        obtain ⟨rfl, rfl⟩ := List.cons.inj h
        simp [hc, split_ne_nil]
      · rw [split_cons_ne hc] at h
        have hfirst : first ≠ [] := by
          cases hsplit : split l with
          | nil => exact absurd hsplit (split_ne_nil l)
          | cons s more =>
              rw [hsplit] at h
              rw [← (List.cons.inj h).1]
              exact nofun
        simp [hc, hfirst]

theorem getLast?_of_split {l : List Char} {init : List (List Char)} (h : split l = init ++ [[]]) :
    l = [] ∨ l.getLast? = some '/' := by
  induction l generalizing init with
  | nil => exact .inl rfl
  | cons c l ih =>
      refine .inr ?_
      have hlater : ∀ rest, split l = rest ++ [[]] → l ≠ [] → (c :: l).getLast? = some '/' := by
        intro rest hrest hne
        rw [List.getLast?_cons_of_ne_nil hne]
        exact (ih hrest).resolve_left hne
      by_cases hc : c = '/'
      · by_cases hne : l = []
        · rw [hc, hne]
          rfl
        · rw [hc, split] at h
          cases init with
          | nil => exact absurd (List.cons.inj h).2 (split_ne_nil l)
          | cons first rest => exact hlater rest (List.cons.inj h).2 hne
      · rw [split_cons_ne hc] at h
        cases hsplit : split l with
        | nil => exact absurd hsplit (split_ne_nil l)
        | cons first rest =>
            rw [hsplit] at h
            cases init with
            | nil => exact absurd (List.cons.inj h).1 nofun
            | cons first' init =>
                have hrest : rest = init ++ [[]] := (List.cons.inj h).2
                refine hlater (first :: init) (by rw [hsplit, hrest]; rfl) ?_
                rintro rfl
                obtain ⟨-, hnil⟩ := List.cons.inj hsplit
                rw [hrest] at hnil
                simp at hnil

/-! ### The last segment -/

theorem Proper.not_idle {s : List Char} (h : Proper s) : idle s = false := by
  simp [idle, h.named, h.notHere]

theorem Proper.inner {s : List Char} (h : Proper s) : inner s = some (.name s) := by
  simp [Path.inner, h.named, h.notHere, h.notUp]

variable {p : String} {s : List Char} {init : List (List Char)}

theorem fileName?_of_split (h : split p.toList = init ++ [s]) (hs : Proper s) :
    fileName? p = some (String.ofList s) := by
  have hlast : (components p).getLast? = some (.name s) := by
    cases init with
    | nil => simp [components, h, hs.named, hs.notHere, hs.inner]
    | cons first more =>
        rw [List.cons_append] at h
        simp only [components, h, List.filterMap_append, List.filterMap_cons, hs.inner,
          List.filterMap_nil]
        rw [← List.append_assoc, List.getLast?_concat]
  simp only [fileName?, hlast]

theorem split_join (d : String) {s : String} (hs : Proper s.toList) :
    ∃ init, split (join d s).toList = init ++ [s.toList] := by
  have hplain := split_of_plain hs.plain
  by_cases hslash : d.toList.getLast? = some '/'
  · obtain ⟨front, hfront⟩ := List.getLast?_eq_some_iff.mp hslash
    have hjoin : join d s = d ++ s := by simp [join, hslash]
    refine ⟨split front, ?_⟩
    rw [hjoin, String.toList_append, hfront, List.append_assoc, List.singleton_append,
      split_append_slash, hplain]
  by_cases hempty : d = ""
  · refine ⟨[], ?_⟩
    simp [join, hempty, hplain]
  · refine ⟨split d.toList, ?_⟩
    have hjoin : join d s = d ++ "/" ++ s := by simp [join, hslash, hempty]
    have hlist : (join d s).toList = d.toList ++ '/' :: s.toList := by
      rw [hjoin, String.toList_append, String.toList_append, List.append_assoc]
      rfl
    rw [hlist, split_append_slash, hplain]

theorem fileName?_join (d : String) {s : String} (hs : Proper s.toList) :
    fileName? (join d s) = some s := by
  obtain ⟨init, hsplit⟩ := split_join d hs
  rw [fileName?_of_split hsplit hs, String.ofList_toList]

/-! ### The segments before the last -/

theorem dropIdleEnd_of_proper (hs : Proper s) (init : List (List Char)) :
    dropIdleEnd (init ++ [s]) = init ++ [s] := by
  cases init with
  | nil => rfl
  | cons first more => simp [dropIdleEnd, hs.not_idle]

theorem dropIdleEnd_append (first : List Char) (more : List (List Char)) :
    ∃ dropped, first :: more = dropIdleEnd (first :: more) ++ dropped ∧
      ∀ d ∈ dropped, idle d = true := by
  refine ⟨(more.reverse.takeWhile idle).reverse, ?_, ?_⟩
  · rw [dropIdleEnd, List.cons_append, ← List.reverse_append, List.takeWhile_append_dropWhile,
      List.reverse_reverse]
  · intro d hd
    exact List.mem_takeWhile_imp (List.mem_reverse.mp hd)

/-- The directory of a path with segments before the last has these, less idle ones at their end. -/
theorem parent?_of_split (h : split p.toList = init ++ [s]) (hs : Proper s) (hinit : init ≠ []) :
    ∃ dir kept dropped, parent? p = some dir ∧ dir ≠ "" ∧ isAbsolute dir = isAbsolute p ∧
      init = kept ++ dropped ∧ (∀ d ∈ dropped, idle d = true) ∧
      (split dir.toList).filter (· ≠ []) = kept.filter (· ≠ []) := by
  obtain ⟨first, more, rfl⟩ := List.exists_cons_of_ne_nil hinit
  obtain ⟨dropped, hkept, hidle⟩ := dropIdleEnd_append first more
  obtain ⟨second, others, hmore⟩ : ∃ second others, more ++ [s] = second :: others :=
    List.exists_cons_of_ne_nil (by simp)
  have hdrop : dropIdleEnd (split p.toList) = first :: second :: others := by
    rw [h, dropIdleEnd_of_proper hs, List.cons_append, hmore]
  have hfront : (first :: second :: others).dropLast = first :: more := by
    rw [← hmore, ← List.cons_append, List.dropLast_concat]
  have hplain : ∀ u ∈ dropIdleEnd (first :: more), '/' ∉ u := by
    intro u hu
    refine plain_of_mem_split (l := p.toList) ?_
    rw [h, hkept]
    exact List.mem_append_left _ (List.mem_append_left _ hu)
  have habsolute : isAbsolute p = true ↔ first = [] := by
    have hhead := head?_eq_slash_iff (h.trans List.cons_append)
    simp [isAbsolute, hhead]
  obtain ⟨r, hr⟩ : ∃ r, dropIdleEnd (first :: more) = first :: r := ⟨_, rfl⟩
  by_cases hroot : first = [] ∧ r = []
  · obtain ⟨rfl, rfl⟩ := hroot
    refine ⟨"/", _, dropped, ?_, by decide, ?_, hkept, hidle, ?_⟩
    · simp only [parent?, hdrop, hfront, hr]
    · rw [habsolute.mpr rfl]
      rfl
    · rw [hr]
      rfl
  · have hsplit : split (List.intercalate ['/'] (first :: r)) = first :: r :=
      split_intercalate nofun (hr ▸ hplain)
    refine ⟨String.ofList (List.intercalate ['/'] (first :: r)), _, dropped, ?_, ?_, ?_, hkept,
      hidle, ?_⟩
    · simp only [parent?, hdrop, hfront, hr]
      split
      · rename_i hone
        exact absurd (List.cons.inj hone) hroot
      · rfl
    · intro hempty
      have hnil : List.intercalate ['/'] (first :: r) = [] := by
        rw [← String.toList_ofList (l := List.intercalate _ _), hempty, String.toList_empty]
      rw [hnil] at hsplit
      exact hroot ⟨(List.cons.inj hsplit).1.symm, (List.cons.inj hsplit).2.symm⟩
    · have hhead := head?_eq_slash_iff hsplit
      rw [Bool.eq_iff_iff, habsolute]
      simp only [isAbsolute, String.toList_ofList, beq_iff_eq, hhead]
      exact ⟨And.left, fun hfirst => ⟨hfirst, fun hr => hroot ⟨hfirst, hr⟩⟩⟩
    · rw [String.toList_ofList, hsplit, hr]

end LiveConfig.Path
