import LiveConfig.Proofs.FileTree.Nodes
import LiveConfig.Proofs.Text.Segments
/-!
Following a path segment by segment.

A path to a name in a directory has that name as its last segment, and its other segments lead to
the directory. So the path of the directory leads there too.
-/

set_option autoImplicit false

namespace LiveConfig.FileTree

variable {t t' : FileTree} {slash : Bool} {segments here parent : List String} {last : String}

def pass (t : FileTree) : List String → List String → Option (List String)
  | here, [] => some here
  | here, s :: rest =>
      if t.node? here = some .directory then
        if s = "." then pass t here rest
        else if s = ".." then pass t here.dropLast rest
        else if s.utf8ByteSize > longestName then none
        else pass t (here ++ [s]) rest
      else none

theorem pass_append (t : FileTree) (here front back : List String) :
    t.pass here (front ++ back) = (t.pass here front).bind (t.pass · back) := by
  induction front generalizing here with
  | nil => rfl
  | cons s rest ih =>
      simp only [List.cons_append, pass]
      split_ifs with hdir hdot hup hlong
      · exact ih here
      · exact ih here.dropLast
      · rfl
      · exact ih (here ++ [s])
      · rfl

theorem walk_of_pass (slash : Bool) (h : t.pass here segments = some parent) :
    ∃ spot, t.walk slash here segments = .ok spot ∧ spot.absolute = parent := by
  induction segments generalizing here with
  | nil => exact ⟨.passed here, rfl, Option.some.inj h⟩
  | cons s rest ih =>
      simp only [pass] at h
      split_ifs at h with hdir hdot hup hlong
      · simp only [walk, hdir, hdot, if_true]
        exact ih h
      · simp only [walk, hdir, hup, if_true]
        exact ih h
      · cases rest with
        | nil =>
            refine ⟨.entry here s slash, ?_, ?_⟩
            · simp [walk, hdir, hdot, hup]
            · exact Option.some.inj h
        | cons s' rest =>
            have hne : ¬s' :: rest = [] := List.cons_ne_nil s' rest
            simp only [walk, hdir, hdot, hup, hlong, hne, if_false] at ih ⊢
            exact ih h

theorem walk_entry {b : Bool} (h : t.walk slash here segments = .ok (.entry parent last b)) :
    ∃ front, segments = front ++ [last] ∧ b = slash ∧ t.pass here front = some parent ∧
      t.node? parent = some .directory ∧ last ≠ "." ∧ last ≠ ".." := by
  induction segments generalizing here with
  | nil => exact absurd h nofun
  | cons s rest ih =>
      cases hnode : t.node? here with
      | none => simp [walk, hnode] at h
      | some node =>
          cases node with
          | directory =>
              simp only [walk, hnode] at h
              split_ifs at h with hdot hup hlast hlong
              · obtain ⟨front, rfl, hb, hpass, hdir, hname⟩ := ih h
                refine ⟨s :: front, rfl, hb, ?_, hdir, hname⟩
                simpa [pass, hnode, hdot] using hpass
              · obtain ⟨front, rfl, hb, hpass, hdir, hname⟩ := ih h
                refine ⟨s :: front, rfl, hb, ?_, hdir, hname⟩
                simpa [pass, hnode, hdot, hup] using hpass
              · cases h
                exact ⟨[], by rw [hlast]; rfl, rfl, rfl, hnode, hdot, hup⟩
              · obtain ⟨front, rfl, hb, hpass, hdir, hname⟩ := ih h
                refine ⟨s :: front, rfl, hb, ?_, hdir, hname⟩
                simpa [pass, hnode, hdot, hup, hlong] using hpass
          | file id => simp [walk, hnode] at h
          | sink => simp [walk, hnode] at h
          | full => simp [walk, hnode] at h

/-! ### Paths -/

variable {path : String}

def names (segments : List (List Char)) : List String :=
  (segments.filter (· ≠ [])).map String.ofList

def origin (t : FileTree) (path : String) : List String :=
  if Path.isAbsolute path then [] else t.cwd

theorem walk_of_locate {spot : Spot} (h : t.locate path = .ok spot) :
    path ≠ "" ∧
      t.walk (path.toList.getLast? = some '/') (t.origin path) (names (Path.split path.toList)) =
        .ok spot := by
  simp only [locate] at h
  split_ifs at h with hnul hempty hlong hroot
  · refine ⟨hempty, ?_⟩
    rw [origin, if_pos hroot]
    exact h
  · refine ⟨hempty, ?_⟩
    rw [origin, if_neg hroot]
    exact h

theorem locate_entry (h : t.locate path = .ok (.entry parent last false)) :
    ∃ init, Path.split path.toList = init ++ [last.toList] ∧ Path.Proper last.toList ∧
      t.pass (t.origin path) (names init) = some parent ∧ t.node? parent = some .directory := by
  obtain ⟨hempty, hwalk⟩ := walk_of_locate h
  obtain ⟨front, hfront, hslash, hpass, hdir, hdot, hup⟩ := walk_entry hwalk
  obtain ⟨init, s, hsplit⟩ : ∃ init s, Path.split path.toList = init ++ [s] :=
    ⟨_, _, (List.dropLast_append_getLast (Path.split_ne_nil path.toList)).symm⟩
  have hs : s ≠ [] := by
    rintro rfl
    rcases Path.getLast?_of_split hsplit with hnil | hlast
    · exact hempty (String.toList_eq_nil_iff.mp hnil)
    · simp [hlast] at hslash
  have hnames : names (Path.split path.toList) = names init ++ [String.ofList s] := by
    simp [names, hsplit, hs]
  rw [hnames] at hfront
  obtain ⟨rfl, hlast⟩ := List.append_inj' hfront rfl
  obtain rfl : String.ofList s = last := (List.cons.inj hlast).1
  refine ⟨init, ?_, ?_, hpass, hdir⟩
  · rw [String.toList_ofList, hsplit]
  · have hplain : '/' ∉ s := by
      refine Path.plain_of_mem_split (l := path.toList) ?_
      rw [hsplit]
      exact List.mem_append_right _ List.mem_cons_self
    rw [String.toList_ofList]
    exact
      { named := hs
        notHere := fun heq => hdot (heq ▸ rfl)
        notUp := fun heq => hup (heq ▸ rfl)
        plain := hplain }

theorem fileName?_of_locate (h : t.locate path = .ok (.entry parent last false)) :
    Path.fileName? path = some last := by
  obtain ⟨init, hsplit, hproper, -⟩ := locate_entry h
  rw [Path.fileName?_of_split hsplit hproper, String.ofList_toList]

theorem pass_idle {dropped : List (List Char)} (hidle : ∀ d ∈ dropped, Path.idle d = true)
    (h : t.pass here (names dropped) = some parent) : here = parent := by
  induction dropped with
  | nil => exact Option.some.inj h
  | cons d rest ih =>
      have hrest := ih fun d' hd' => hidle d' (List.mem_cons_of_mem d hd')
      by_cases hempty : d = []
      · refine hrest ?_
        rw [← h, names, names, hempty, List.filter_cons_of_neg (by simp)]
      · have hdot : d = ['.'] := by simpa [Path.idle, hempty] using hidle d List.mem_cons_self
        have hnames : names (d :: rest) = "." :: names rest := by
          rw [names, List.filter_cons_of_pos (by simpa using hempty), hdot]
          rfl
        rw [hnames] at h
        simp only [pass, if_true] at h
        split_ifs at h
        exact hrest h

end LiveConfig.FileTree
