import LiveConfig.EnvText.Basic
import LiveConfig.Proofs.Text.Trimmed
/-!
Documents: env texts as they are written, line by line.

A line is an assignment or says nothing. A value stands bare or in quotes, and nothing in a document
stands for a variable, so it reads as its assignments, in order, in every environment.
-/

set_option autoImplicit false

namespace LiveConfig.EnvText

/-- A letter or an underscore, and then letters, digits, underscores and dots. -/
def IsKey (key : List Char) : Prop :=
  ∃ c rest, key = c :: rest ∧ (c.isAlpha ∨ c = '_') ∧ ∀ d ∈ rest, d.isAlphanum ∨ d = '_' ∨ d = '.'

theorem isKey_cons {c : Char} {rest : List Char} : IsKey (c :: rest) ↔
    (c.isAlpha ∨ c = '_') ∧ rest.all fun d => d.isAlphanum || d == '_' || d == '.' := by
  simp only [List.all_eq_true, Bool.or_eq_true, beq_iff_eq, or_assoc]
  constructor
  · rintro ⟨_, _, hkey, hstart, hrest⟩
    cases hkey
    exact ⟨hstart, hrest⟩
  · rintro ⟨hstart, hrest⟩
    exact ⟨c, rest, rfl, hstart, hrest⟩

instance : (key : List Char) → Decidable (IsKey key)
  | [] => isFalse nofun
  | _ :: _ => decidable_of_iff _ isKey_cons.symm

def escapeChar (c : Char) : List Char :=
  if c = '\\' ∨ c = '"' ∨ c = '$' then ['\\', c] else if c = '\n' then ['\\', 'n'] else [c]

def escape (l : List Char) : List Char := l.flatMap escapeChar

/-- How a value stands in a line. -/
inductive Quoting where
  | bare | single | double
deriving DecidableEq, Repr

namespace Quoting

def admits : Quoting → Char → Bool
  | bare, c =>
      !(Text.isBlank c || c == '\\' || c == '"' || c == '\'' || c == '$' || c == '#')
  | single, c => !(c == '\'' || c == '\\' || c == '\n')
  | double, _ => true

def write : Quoting → List Char → List Char
  | bare, l => l
  | single, l => '\'' :: l ++ ['\'']
  | double, l => '"' :: escape l ++ ['"']

end Quoting

abbrev Spaces := { l : List Char // ∀ c ∈ l, c = ' ' ∨ c = '\t' }

def Spaces.none : Spaces := ⟨[], nofun⟩

inductive Ending where
  | spaces (l : Spaces)
  | comment (text : List Char) (oneLine : '\n' ∉ text)

def Ending.chars : Ending → List Char
  | spaces l => l.1
  | comment text _ => ' ' :: '#' :: text

/-- A key with a value, as they are written. A bare value that is empty stands right behind the
equals sign. -/
structure Assignment where
  key : String
  value : String
  quoting : Quoting
  indent : Spaces := .none
  gap : Spaces := .none
  pad : Spaces := .none
  ending : Ending := .spaces .none
  isKey : IsKey key.toList
  fits : ∀ c ∈ value.toList, quoting.admits c = true
  firm : quoting = .bare → value.toList = [] → pad.1 = []

inductive Line where
  | blank (l : Spaces)
  | comment (indent : Spaces) (text : List Char) (oneLine : '\n' ∉ text)
  | assignment (a : Assignment)

def Assignment.left (a : Assignment) : List Char :=
  a.indent.1 ++ (a.key.toList ++ (a.gap.1 ++ ['=']))

/-- What stands up to the end of the value. -/
def Assignment.body (a : Assignment) : List Char :=
  a.left ++ (a.pad.1 ++ a.quoting.write a.value.toList)

namespace Line

def chars : Line → List Char
  | blank l => l.1
  | comment indent text _ => indent.1 ++ '#' :: text
  | assignment a => a.body ++ a.ending.chars

def entry? : Line → Option (String × String)
  | blank _ | comment .. => none
  | assignment a => some (a.key, a.value)

end Line

abbrev Document := List Line

namespace Document

def text (d : Document) : String := String.ofList (d.flatMap fun line => line.chars ++ ['\n'])

/-- What the document assigns; of two assignments to one key the later stands. -/
def settings (d : Document) : Settings := .ofList (d.filterMap Line.entry?)

end Document

/-! ### The state of a line -/

def Scan.behind (front : List Char) : Scan → Scan
  | cut kept => cut (front ++ kept)
  | reached mode => reached mode

theorem scan_append {mode mode' : LineMode} {l : List Char} (h : scan mode l = .reached mode')
    (rest : List Char) : scan mode (l ++ rest) = (scan mode' rest).behind l := by
  induction l generalizing mode with
  | nil =>
      obtain rfl : mode = mode' := Scan.reached.inj h
      simp only [List.nil_append]
      cases scan mode rest <;> rfl
  | cons c l ih =>
      simp only [scan] at h
      rw [List.cons_append, scan]
      cases hstep : mode.step? c with
      | none => simp [hstep] at h
      | some next =>
          cases hl : scan next l with
          | cut kept => simp [hstep, hl] at h
          | reached last =>
              simp only [hstep, hl, Scan.reached.injEq] at h
              subst h
              simp only [ih hl]
              cases scan last rest <;> rfl

theorem scan_through {mode mode' mode'' : LineMode} {l rest : List Char}
    (h : scan mode l = .reached mode') (hrest : scan mode' rest = .reached mode'') :
    scan mode (l ++ rest) = .reached mode'' := by
  rw [scan_append h, hrest]
  rfl

def LineMode.Idle (mode : LineMode) : Prop := mode = .complete ∨ mode = .blank

def Plain (c : Char) : Prop :=
  Text.isBlank c = false ∧ c ≠ '\\' ∧ c ≠ '"' ∧ c ≠ '\'' ∧ c ≠ '#'

theorem step?_complete (c : Char) : LineMode.complete.step? c =
    if Text.isBlank c ∧ c ≠ '\n' ∧ c ≠ '\r' then some .blank
    else some ((if c = '\\' then some .escape else if c = '"' then some .weak
      else if c = '\'' then some .strong else none).getD .complete) := rfl

theorem step?_blank (c : Char) : LineMode.blank.step? c =
    if c = '#' then none
    else some ((if c = '\\' then some .escape else if c = '"' then some .weak
      else if c = '\'' then some .strong else none).getD .complete) := rfl

section

variable {mode : LineMode} {c : Char} {l : List Char}

theorem LineMode.Idle.step_plain (h : mode.Idle) (hc : Plain c) : mode.step? c = some .complete := by
  obtain ⟨hblank, hslash, hdouble, hsingle, hhash⟩ := hc
  rcases h with rfl | rfl
  · simp [step?_complete, hblank, hslash, hdouble, hsingle]
  · simp [step?_blank, hslash, hdouble, hsingle, hhash]

theorem LineMode.Idle.step_space (h : mode.Idle) (hc : c = ' ' ∨ c = '\t') :
    ∃ next, mode.step? c = some next ∧ next.Idle := by
  rcases h with rfl | rfl <;> rcases hc with rfl | rfl
  · exact ⟨.blank, by decide, .inr rfl⟩
  · exact ⟨.blank, by decide, .inr rfl⟩
  · exact ⟨.complete, by decide, .inl rfl⟩
  · exact ⟨.complete, by decide, .inl rfl⟩

theorem LineMode.Idle.scan_spaces (h : mode.Idle) (hl : ∀ c ∈ l, c = ' ' ∨ c = '\t') :
    ∃ next, scan mode l = .reached next ∧ next.Idle := by
  induction l generalizing mode with
  | nil => exact ⟨mode, rfl, h⟩
  | cons c l ih =>
      obtain ⟨next, hstep, hidle⟩ := h.step_space (hl c List.mem_cons_self)
      obtain ⟨last, hscan, hlast⟩ := ih hidle fun d hd => hl d (List.mem_cons_of_mem c hd)
      refine ⟨last, ?_, hlast⟩
      simp [scan, hstep, hscan]

theorem scan_plain (hl : ∀ c ∈ l, Plain c) : scan .complete l = .reached .complete := by
  induction l with
  | nil => rfl
  | cons c l ih =>
      have hstep := LineMode.Idle.step_plain (.inl rfl) (hl c List.mem_cons_self)
      have hrest := ih fun d hd => hl d (List.mem_cons_of_mem c hd)
      simp [scan, hstep, hrest]

theorem LineMode.Idle.scan_plain (h : mode.Idle) (hne : l ≠ []) (hl : ∀ c ∈ l, Plain c) :
    scan mode l = .reached .complete := by
  cases l with
  | nil => exact absurd rfl hne
  | cons c l =>
      have hstep := h.step_plain (hl c List.mem_cons_self)
      have hrest := EnvText.scan_plain fun d hd => hl d (List.mem_cons_of_mem c hd)
      simp [scan, hstep, hrest]

theorem LineMode.Idle.scan_newline (h : mode.Idle) : scan mode ['\n'] = .reached .complete := by
  rcases h with rfl | rfl <;> rfl

theorem scan_escapeChar (c : Char) : scan .weak (escapeChar c) = .reached .weak := by
  unfold escapeChar
  split
  case isTrue => rfl
  case isFalse hspecial =>
    have hslash : c ≠ '\\' := fun h => hspecial (.inl h)
    have hquote : c ≠ '"' := fun h => hspecial (.inr (.inl h))
    split
    · rfl
    · simp [scan, LineMode.step?, hslash, hquote]

theorem scan_escape (l : List Char) : scan .weak (escape l) = .reached .weak := by
  induction l with
  | nil => rfl
  | cons c l ih => exact scan_through (scan_escapeChar c) ih

theorem scan_strong (hl : ∀ c ∈ l, Quoting.single.admits c = true) :
    scan .strong l = .reached .strong := by
  induction l with
  | nil => rfl
  | cons c l ih =>
      have hc := hl c List.mem_cons_self
      simp only [Quoting.admits, Bool.not_eq_true', Bool.or_eq_false_iff, beq_eq_false_iff_ne] at hc
      have hrest := ih fun d hd => hl d (List.mem_cons_of_mem c hd)
      simp [scan, LineMode.step?, hc.1.1, hc.1.2, hrest]

theorem plain_of_admits (hc : Quoting.bare.admits c = true) : Plain c ∧ c ≠ '$' := by
  simp only [Quoting.admits, Bool.not_eq_true', Bool.or_eq_false_iff, beq_eq_false_iff_ne] at hc
  obtain ⟨⟨⟨⟨⟨hblank, hslash⟩, hdouble⟩, hsingle⟩, hdollar⟩, hhash⟩ := hc
  exact ⟨⟨hblank, hslash, hdouble, hsingle, hhash⟩, hdollar⟩

theorem LineMode.Idle.scan_write (h : mode.Idle) {q : Quoting} (hne : q = .bare → l ≠ [])
    (hl : ∀ c ∈ l, q.admits c = true) : scan mode (q.write l) = .reached .complete := by
  cases q with
  | bare => exact h.scan_plain (hne rfl) fun c hc => (plain_of_admits (hl c hc)).1
  | single =>
      have hopen : scan mode ['\''] = .reached .strong := by rcases h with rfl | rfl <;> rfl
      have hclose : scan .strong ['\''] = .reached .complete := rfl
      exact scan_through (scan_through hopen (scan_strong hl)) hclose
  | double =>
      have hopen : scan mode ['"'] = .reached .weak := by rcases h with rfl | rfl <;> rfl
      have hclose : scan .weak ['"'] = .reached .complete := rfl
      exact scan_through (scan_through hopen (scan_escape l)) hclose

end

/-! ### The text of a value -/

/-- From `mode` the characters `l` add a text to the value, and lead to `mode'`. -/
def Reads (lookup : String → String) (mode : ValueMode) (l added : List Char)
    (mode' : ValueMode) : Prop :=
  ∀ index rest, readValue lookup mode index (l ++ rest) =
    (readValue lookup mode' (index + l.length) rest).map (added ++ ·)

section

variable {lookup : String → String} {mode mode' mode'' : ValueMode} {c : Char}
  {l l' added added' : List Char}

theorem Reads.nil : Reads lookup mode [] [] mode := by
  intro index rest
  change readValue lookup mode index rest = (readValue lookup mode index rest).map id
  cases readValue lookup mode index rest <;> rfl

theorem Reads.step (hopen : mode ≠ .trailing)
    (h : mode.step? lookup c = some (added, mode')) : Reads lookup mode [c] added mode' := by
  intro index rest
  have hcomment : ¬(mode = .trailing ∧ c = '#') := fun hc => hopen hc.1
  rw [List.singleton_append, readValue, if_neg hcomment, h]
  change (readValue lookup mode' (index + 1) rest).bind (fun text => .ok (added ++ text)) =
    (readValue lookup mode' (index + 1) rest).map (added ++ ·)
  cases readValue lookup mode' (index + 1) rest <;> rfl

theorem Reads.trans (h : Reads lookup mode l added mode') (h' : Reads lookup mode' l' added' mode'') :
    Reads lookup mode (l ++ l') (added ++ added') mode'' := by
  intro index rest
  rw [List.append_assoc, h, h', List.length_append, Nat.add_assoc]
  cases readValue lookup mode'' (index + (l.length + l'.length)) rest with
  | error e => rfl
  | ok text => exact congrArg Except.ok (List.append_assoc added added' text).symm

theorem reads_escapeChar (c : Char) :
    Reads lookup (.plain true) (escapeChar c) [c] (.plain true) := by
  have hslash : Reads lookup (.plain true) ['\\'] [] (.escaped true) := .step nofun rfl
  unfold escapeChar
  split
  case isTrue hspecial =>
    have hescaped : ValueMode.step? lookup (.escaped true) c = some ([c], .plain true) := by
      rcases hspecial with rfl | rfl | rfl <;> rfl
    exact hslash.trans (.step nofun hescaped)
  case isFalse hspecial =>
    split
    case isTrue hfeed =>
      have hescaped : ValueMode.step? lookup (.escaped true) 'n' = some ([c], .plain true) := by
        rw [hfeed]
        rfl
      exact hslash.trans (.step nofun hescaped)
    case isFalse =>
      simp only [not_or] at hspecial
      obtain ⟨hslash, hquote, hdollar⟩ := hspecial
      exact .step nofun (by simp [ValueMode.step?, hslash, hquote, hdollar])

theorem reads_escape (l : List Char) : Reads lookup (.plain true) (escape l) l (.plain true) := by
  induction l with
  | nil => exact .nil
  | cons c l ih => exact (reads_escapeChar c).trans ih

theorem reads_strong (hl : ∀ c ∈ l, Quoting.single.admits c = true) :
    Reads lookup .strong l l .strong := by
  induction l with
  | nil => exact .nil
  | cons c l ih =>
      have hc := hl c List.mem_cons_self
      simp only [Quoting.admits, Bool.not_eq_true', Bool.or_eq_false_iff, beq_eq_false_iff_ne] at hc
      have hfirst : Reads lookup .strong [c] [c] .strong :=
        .step nofun (by simp [ValueMode.step?, hc.1.1])
      exact hfirst.trans (ih fun d hd => hl d (List.mem_cons_of_mem c hd))

theorem reads_bare (hl : ∀ c ∈ l, Quoting.bare.admits c = true) :
    Reads lookup (.plain false) l l (.plain false) := by
  induction l with
  | nil => exact .nil
  | cons c l ih =>
      obtain ⟨⟨hblank, hslash, hdouble, hsingle, -⟩, hdollar⟩ :=
        plain_of_admits (hl c List.mem_cons_self)
      have hspace : c ≠ ' ' := by
        rintro rfl
        exact absurd hblank (by decide)
      have htab : c ≠ '\t' := by
        rintro rfl
        exact absurd hblank (by decide)
      have hfirst : Reads lookup (.plain false) [c] [c] (.plain false) :=
        .step nofun (by simp [ValueMode.step?, hslash, hdouble, hsingle, hdollar, hspace, htab])
      exact hfirst.trans (ih fun d hd => hl d (List.mem_cons_of_mem c hd))

/-- However a value is written, it is read as it is. -/
theorem readValue_write {q : Quoting} (hl : ∀ c ∈ l, q.admits c = true) :
    readValue lookup (.plain false) 0 (q.write l) = .ok l := by
  have hreads : Reads lookup (.plain false) (q.write l) l (.plain false) := by
    cases q with
    | bare => exact reads_bare hl
    | single =>
        have hopen : Reads lookup (.plain false) ['\''] [] .strong := .step nofun rfl
        have hclose : Reads lookup .strong ['\''] [] (.plain false) := .step nofun rfl
        have hall := (hopen.trans (reads_strong hl)).trans hclose
        rwa [List.nil_append, List.append_nil] at hall
    | double =>
        have hopen : Reads lookup (.plain false) ['"'] [] (.plain true) := .step nofun rfl
        have hclose : Reads lookup (.plain true) ['"'] [] (.plain false) := .step nofun rfl
        have hall := (hopen.trans (reads_escape l)).trans hclose
        rwa [List.nil_append, List.append_nil] at hall
  have hend := hreads 0 []
  rw [List.append_nil] at hend
  rw [hend]
  exact congrArg Except.ok (List.append_nil l)

end

/-! ### Lines -/

theorem plain_of_isAlphanum {c : Char} (h : c.isAlphanum = true) : Plain c := by
  refine ⟨Text.isBlank_of_isAlphanum h, ?_, ?_, ?_, ?_⟩ <;> rintro rfl <;> exact absurd h (by decide)

theorem plain_of_isKeyChar {c : Char} (h : isKeyChar c = true) : Plain c := by
  simp only [isKeyChar, Bool.or_eq_true, beq_iff_eq] at h
  rcases h with (h | rfl) | rfl
  · exact plain_of_isAlphanum h
  · exact ⟨by decide, by decide, by decide, by decide, by decide⟩
  · exact ⟨by decide, by decide, by decide, by decide, by decide⟩

theorem IsKey.read {key rest : List Char} (h : IsKey key)
    (hrest : ∀ c, rest.head? = some c → isKeyChar c = false) :
    readKey? (key ++ rest) = some (key, rest) := by
  obtain ⟨c, tail, rfl, hstart, htail⟩ := h
  have hc : isKeyStart c = true := by simpa [isKeyStart] using hstart
  have hall : ∀ d ∈ tail, isKeyChar d = true := fun d hd => by
    simpa [isKeyChar, or_assoc] using htail d hd
  have htake : rest.takeWhile isKeyChar = [] := by
    cases rest with
    | nil => rfl
    | cons d rest => simp [hrest d rfl]
  have hdrop : rest.dropWhile isKeyChar = rest := by
    cases rest with
    | nil => rfl
    | cons d rest => simp [hrest d rfl]
  rw [List.cons_append, readKey?, if_pos hc, List.takeWhile_append_of_pos hall,
    List.dropWhile_append_of_pos hall, htake, hdrop, List.append_nil]

theorem IsKey.plain {key : List Char} (h : IsKey key) : key ≠ [] ∧ ∀ c ∈ key, Plain c := by
  obtain ⟨c, tail, rfl, hstart, htail⟩ := h
  refine ⟨nofun, fun d hd => plain_of_isKeyChar ?_⟩
  rcases List.mem_cons.mp hd with rfl | hd
  · rcases hstart with halpha | rfl
    · simp [isKeyChar, Char.isAlphanum, halpha]
    · decide
  · simpa [isKeyChar, or_assoc] using htail d hd

theorem Spaces.blank (l : Spaces) : l.1.all Text.isBlank = true := by
  rw [List.all_eq_true]
  intro c hc
  rcases l.2 c hc with h | h <;> rw [h] <;> decide

theorem write_cons {q : Quoting} {l : List Char} (hl : ∀ c ∈ l, q.admits c = true)
    (hne : q = .bare → l ≠ []) :
    ∃ c rest, q.write l = c :: rest ∧ Text.isBlank c = false ∧ c ≠ '#' := by
  cases q with
  | single => exact ⟨'\'', l ++ ['\''], rfl, by decide, by decide⟩
  | double => exact ⟨'"', escape l ++ ['"'], rfl, by decide, by decide⟩
  | bare =>
      cases l with
      | nil => exact absurd rfl (hne rfl)
      | cons c rest =>
          obtain ⟨⟨hblank, -, -, -, hhash⟩, -⟩ := plain_of_admits (hl c List.mem_cons_self)
          exact ⟨c, rest, rfl, hblank, hhash⟩

theorem write_concat {q : Quoting} {l : List Char} (hl : ∀ c ∈ l, q.admits c = true)
    (hne : q = .bare → l ≠ []) : ∃ front c, q.write l = front ++ [c] ∧ Text.isBlank c = false := by
  cases q with
  | single => exact ⟨'\'' :: l, '\'', rfl, by decide⟩
  | double => exact ⟨'"' :: escape l, '"', rfl, by decide⟩
  | bare =>
      have hlast := hl (l.getLast (hne rfl)) (List.getLast_mem (hne rfl))
      exact ⟨l.dropLast, l.getLast (hne rfl), (List.dropLast_concat_getLast (hne rfl)).symm,
        (plain_of_admits hlast).1.1⟩

namespace Assignment

variable (a : Assignment)

def Vacant : Prop := a.quoting = .bare ∧ a.value.toList = []

theorem body_of_vacant {a : Assignment} (h : a.Vacant) : a.body = a.left := by
  rw [body, h.1, h.2, a.firm h.1 h.2]
  exact List.append_nil _

theorem scan_left : scan .complete a.left = .reached .complete := by
  obtain ⟨hne, hkey⟩ := a.isKey.plain
  obtain ⟨before, hbefore, hidle⟩ := LineMode.Idle.scan_spaces (.inl rfl) a.indent.2
  obtain ⟨behind, hbehind, hidle'⟩ := LineMode.Idle.scan_spaces (.inl rfl) a.gap.2
  have hsign : scan behind ['='] = .reached .complete := by
    rcases hidle' with rfl | rfl <;> rfl
  exact scan_through hbefore (scan_through (hidle.scan_plain hne hkey) (scan_through hbehind hsign))

theorem scan_body : scan .complete a.body = .reached .complete := by
  by_cases hvacant : a.Vacant
  · rw [body_of_vacant hvacant]
    exact a.scan_left
  · obtain ⟨mode, hpad, hidle⟩ := LineMode.Idle.scan_spaces (.inl rfl) a.pad.2
    have hne : a.quoting = .bare → a.value.toList ≠ [] := fun hbare hnil => hvacant ⟨hbare, hnil⟩
    exact scan_through a.scan_left (scan_through hpad (hidle.scan_write hne a.fits))

theorem body_concat : ∃ front c, a.body = front ++ [c] ∧ Text.isBlank c = false := by
  by_cases hvacant : a.Vacant
  · rw [body_of_vacant hvacant]
    refine ⟨a.indent.1 ++ (a.key.toList ++ a.gap.1), '=', ?_, by decide⟩
    simp only [left, List.append_assoc]
  · obtain ⟨front, c, hwrite, hc⟩ := write_concat a.fits
      fun hbare hnil => hvacant ⟨hbare, hnil⟩
    refine ⟨a.left ++ (a.pad.1 ++ front), c, ?_, hc⟩
    rw [body, hwrite]
    simp only [List.append_assoc]

theorem value_read (lookup : String → String) :
    (match Text.trimStart (a.pad.1 ++ a.quoting.write a.value.toList) with
      | [] | '#' :: _ => .ok (some (a.key, ""))
      | value =>
          match readValue lookup (.plain false) 0 value with
          | .ok text => .ok (some (a.key, String.ofList text))
          | .error (.at index) => .error ⟨String.ofList value, index⟩
          | .error .unterminated => .error ⟨String.ofList value, byteLength value - 1⟩ :
        Except LineFault (Option (String × String))) = .ok (some (a.key, a.value)) := by
  rw [Text.trimStart_append a.pad.blank]
  by_cases hvacant : a.Vacant
  · have hempty : a.value = "" := String.toList_eq_nil_iff.mp hvacant.2
    rw [hvacant.1, hempty]
    rfl
  · obtain ⟨c, rest, hwrite, hc, hhash⟩ := write_cons a.fits
      fun hbare hnil => hvacant ⟨hbare, hnil⟩
    have hread : readValue lookup (.plain false) 0 (c :: rest) = .ok a.value.toList :=
      hwrite ▸ readValue_write a.fits
    rw [hwrite, Text.trimStart_visible hc]
    split
    · rename_i heq
      exact absurd heq nofun
    · rename_i heq
      exact absurd (List.cons.inj heq).1 hhash
    · rw [hread]
      exact congrArg (fun text => Except.ok (some (a.key, text))) String.ofList_toList

theorem readEntry_body (lookup : String → String) {after : List Char}
    (hafter : after.all Text.isBlank = true) :
    readEntry lookup (a.body ++ after) = .ok (some (a.key, a.value)) := by
  obtain ⟨front, last, hbody, hlast⟩ := a.body_concat
  have hend : Text.trimEnd (a.body ++ after) = a.body := by
    rw [hbody, List.append_assoc, List.singleton_append]
    exact Text.trimEnd_append hlast hafter front
  obtain ⟨c, tail, hkey, -, -⟩ := a.isKey
  obtain ⟨hblank, -, -, -, hhash⟩ := a.isKey.plain.2 c (hkey ▸ List.mem_cons_self)
  have hstart : Text.trimStart a.body = c :: (tail ++ (a.gap.1 ++
      '=' :: (a.pad.1 ++ a.quoting.write a.value.toList))) := by
    rw [body, left, List.append_assoc, Text.trimStart_append a.indent.blank, hkey]
    simp only [List.cons_append, List.append_assoc, List.nil_append]
    exact Text.trimStart_visible hblank _
  have hname : readName (c :: (tail ++ (a.gap.1 ++
      '=' :: (a.pad.1 ++ a.quoting.write a.value.toList)))) =
        .ok (a.key, a.pad.1 ++ a.quoting.write a.value.toList) := by
    have hstop : ∀ d, (a.gap.1 ++ '=' :: (a.pad.1 ++ a.quoting.write a.value.toList)).head? =
        some d → isKeyChar d = false := by
      intro d hd
      cases hgap : a.gap.1 with
      | nil =>
          rw [hgap] at hd
          obtain rfl := Option.some.inj hd
          decide
      | cons e rest =>
          rw [hgap] at hd
          obtain rfl := Option.some.inj hd
          rcases a.gap.2 e (hgap ▸ List.mem_cons_self) with rfl | rfl <;> decide
    have hread := a.isKey.read hstop
    rw [hkey, List.cons_append] at hread
    rw [readName, hread]
    simp only [Text.trimStart_append a.gap.blank]
    rw [Text.trimStart_visible (by decide), ← hkey]
    simp only [String.ofList_toList]
  rw [readEntry, hend, hstart]
  split
  · rename_i heq
    exact absurd heq nofun
  · rename_i heq
    exact absurd (List.cons.inj heq).1 hhash
  · rw [hname]
    exact a.value_read lookup

end Assignment

theorem dropLineEnd_append {l : List Char} (h : ∀ c, l.getLast? = some c → c ≠ '\r') :
    dropLineEnd (l ++ ['\n']) = l := by
  induction l with
  | nil => rfl
  | cons c l ih =>
      cases l with
      | nil =>
          have hc : c ≠ '\r' := h c rfl
          rw [List.singleton_append, dropLineEnd]
          · rfl
          · exact fun heq _ => hc heq
          · nofun
      | cons d l =>
          have hrest := ih fun e he => h e (by rw [List.getLast?_cons_cons]; exact he)
          rw [List.cons_append, dropLineEnd, hrest]
          · intro _ heq
            simp at heq
          · nofun

structure Line.Standing (line : Line) (text : List Char) : Prop where
  splits : ∀ broken rest, logicalLines broken [] .complete ((line.chars ++ ['\n']) :: rest) =
    .done text :: logicalLines broken [] .complete rest
  reads : ∀ lookup, readEntry lookup text = .ok line.entry?
  oneLine : '\n' ∉ line.chars

theorem not_mem_of_plain {l : List Char} (h : ∀ c ∈ l, Plain c) : '\n' ∉ l :=
  fun hmem => absurd (h _ hmem).1 (by decide)

theorem Spaces.not_mem (l : Spaces) : '\n' ∉ l.1 := by
  intro hmem
  rcases l.2 _ hmem with h | h <;> exact absurd h (by decide)

theorem not_mem_escape (l : List Char) : '\n' ∉ escape l := by
  intro hmem
  obtain ⟨c, -, hc⟩ := List.mem_flatMap.mp hmem
  unfold escapeChar at hc
  split at hc
  case isTrue hspecial =>
    rcases hspecial with rfl | rfl | rfl <;> exact absurd hc (by decide)
  case isFalse =>
    split at hc
    · exact absurd hc (by decide)
    · rename_i hfeed
      exact hfeed (List.mem_singleton.mp hc).symm

theorem not_mem_write {q : Quoting} {l : List Char} (hl : ∀ c ∈ l, q.admits c = true) :
    '\n' ∉ q.write l := by
  cases q with
  | bare => exact not_mem_of_plain fun c hc => (plain_of_admits (hl c hc)).1
  | single =>
      have hinner : '\n' ∉ l := fun hmem => absurd (hl _ hmem) (by decide)
      simp [Quoting.write, hinner]
  | double => simp [Quoting.write, not_mem_escape]

theorem Assignment.not_mem_body (a : Assignment) : '\n' ∉ a.body := by
  simp [Assignment.body, Assignment.left, a.indent.not_mem, a.gap.not_mem, a.pad.not_mem,
    not_mem_of_plain a.isKey.plain.2, not_mem_write a.fits]

theorem Assignment.head?_body (a : Assignment) (rest : List Char) :
    (Text.trimStart (a.body ++ rest)).head? ≠ some '#' := by
  obtain ⟨c, tail, hkey, -, -⟩ := a.isKey
  obtain ⟨hblank, -, -, -, hhash⟩ := a.isKey.plain.2 c (hkey ▸ List.mem_cons_self)
  rw [body, left]
  simp only [List.append_assoc]
  rw [Text.trimStart_append a.indent.blank, hkey, List.cons_append, Text.trimStart_visible hblank]
  exact fun h => hhash (Option.some.inj h)

theorem standing_blank (l : Spaces) : (Line.blank l).Standing l.1 where
  splits := by
    intro broken rest
    have hblank : (l.1 ++ ['\n']).all Text.isBlank = true := by
      rw [List.all_append, l.blank]
      decide
    have hhead : Text.trimStart (l.1 ++ ['\n']) = [] := Text.trimStart_blank hblank
    obtain ⟨mode, hspaces, hidle⟩ := LineMode.Idle.scan_spaces (.inl rfl) l.2
    have hscan : scan .complete (l.1 ++ ['\n']) = .reached .complete :=
      scan_through hspaces hidle.scan_newline
    have hline : dropLineEnd (l.1 ++ ['\n']) = l.1 := by
      refine dropLineEnd_append fun c hc => ?_
      rcases l.2 c (List.mem_of_getLast? hc) with rfl | rfl <;> decide
    rw [logicalLines]
    simp only [Line.chars, List.nil_append, hhead, hscan, hline]
    rfl
  reads := by
    intro lookup
    rw [readEntry, Text.trimEnd_blank l.blank]
    rfl
  oneLine := l.not_mem

theorem standing_comment (indent : Spaces) (text : List Char) (oneLine : '\n' ∉ text) :
    (Line.comment indent text oneLine).Standing [] where
  splits := by
    intro broken rest
    have hhead : (Text.trimStart (indent.1 ++ '#' :: (text ++ ['\n']))).head? = some '#' := by
      rw [Text.trimStart_append indent.blank, Text.trimStart_visible (by decide)]
      rfl
    rw [logicalLines]
    simp only [Line.chars, List.nil_append, List.append_assoc, List.cons_append, hhead]
    rfl
  reads := fun _ => rfl
  oneLine := by simp [Line.chars, indent.not_mem, oneLine]

theorem standing_assignment (a : Assignment) :
    (Line.assignment a).Standing (a.body ++ match a.ending with
      | .spaces l => l.1
      | .comment .. => [' ']) where
  splits := by
    intro broken rest
    have hhead := a.head?_body (a.ending.chars ++ ['\n'])
    rw [logicalLines]
    simp only [Line.chars, List.nil_append, List.append_assoc, if_neg hhead]
    rw [scan_append a.scan_body]
    cases a.ending with
    | comment text oneLine =>
        have hcut : scan .complete (' ' :: '#' :: (text ++ ['\n'])) = .cut [' '] := rfl
        simp only [Ending.chars, List.cons_append, hcut, Scan.behind]
    | spaces l =>
        obtain ⟨mode, hspaces, hidle⟩ := LineMode.Idle.scan_spaces (.inl rfl) l.2
        have hscan : scan .complete (l.1 ++ ['\n']) = .reached .complete :=
          scan_through hspaces hidle.scan_newline
        have hline : dropLineEnd (a.body ++ l.1 ++ ['\n']) = a.body ++ l.1 := by
          refine dropLineEnd_append fun c hc => ?_
          rw [List.getLast?_append] at hc
          rcases Option.or_eq_some_iff.mp hc with hc | ⟨-, hc⟩
          · rcases l.2 c (List.mem_of_getLast? hc) with rfl | rfl <;> decide
          · obtain ⟨front, last, hbody, hlast⟩ := a.body_concat
            rw [hbody, List.getLast?_concat, Option.some.injEq] at hc
            rintro rfl
            rw [hc] at hlast
            exact absurd hlast (by decide)
        rw [List.append_assoc] at hline
        simp only [Ending.chars, hscan, Scan.behind, hline]
  reads := by
    intro lookup
    apply a.readEntry_body
    cases a.ending with
    | spaces l => exact l.blank
    | comment text oneLine => exact rfl
  oneLine := by
    have hending : '\n' ∉ a.ending.chars := by
      cases a.ending with
      | spaces l => exact l.not_mem
      | comment text oneLine => simp [Ending.chars, oneLine]
    simp [Line.chars, a.not_mem_body, hending]

theorem Line.standing (line : Line) : ∃ text, line.Standing text := by
  cases line with
  | blank l => exact ⟨_, standing_blank l⟩
  | comment indent text oneLine => exact ⟨_, standing_comment indent text oneLine⟩
  | assignment a => exact ⟨_, standing_assignment a⟩

/-! ### Documents -/

theorem physicalLines_append {l : List Char} (h : '\n' ∉ l) (rest : List Char) :
    physicalLines (l ++ '\n' :: rest) = (l ++ ['\n']) :: physicalLines rest := by
  induction l with
  | nil => rfl
  | cons c l ih =>
      have hc : c ≠ '\n' := fun hc => h (hc ▸ List.mem_cons_self)
      have hl : '\n' ∉ l := fun hl => h (List.mem_cons_of_mem c hl)
      simp only [List.cons_append, physicalLines, if_neg hc, ih hl]

theorem foldlM_document (env : Environment) (d : Document) (known : Settings) :
    (logicalLines false [] .complete
      (physicalLines (d.flatMap fun line => line.chars ++ ['\n']))).foldlM (readLine env) known =
        .ok ((d.filterMap Line.entry?).foldl (fun m e => m.insert e.1 e.2) known) := by
  induction d generalizing known with
  | nil => rfl
  | cons line d ih =>
      obtain ⟨text, hline⟩ := line.standing
      rw [List.flatMap_cons, List.append_assoc, List.singleton_append,
        physicalLines_append hline.oneLine, hline.splits, List.foldlM_cons]
      have hread := hline.reads (resolve env known)
      cases hentry : line.entry? with
      | none =>
          rw [hentry] at hread
          rw [List.filterMap_cons_none hentry, ← ih]
          simp only [readLine, hread]
          rfl
      | some e =>
          rw [hentry] at hread
          rw [List.filterMap_cons_some hentry, List.foldl_cons, ← ih]
          simp only [readLine, hread]
          rfl

/-- A document reads as what it assigns, in every environment. -/
theorem parse_document (env : Environment) (d : Document) : parse env d.text = .ok d.settings := by
  rw [parse, Source.settings, Source.logicalLines, Source.ofText, Document.text,
    String.toList_ofList]
  exact foldlM_document env d ∅

theorem parseBytes_document (env : Environment) (d : Document) :
    parseBytes env d.text.toUTF8 = .ok d.settings := by
  have hvalid : String.fromUTF8? d.text.toUTF8 = some d.text := by
    rw [String.toUTF8_eq_toByteArray, String.fromUTF8?, dif_pos d.text.isValidUTF8]
    rfl
  rw [parseBytes, Source.ofBytes, hvalid]
  exact parse_document env d

end LiveConfig.EnvText
