import LiveConfig.Proofs.EnvText.Document
import LiveConfig.Proofs.Numeral.Decimal
import LiveConfig.Store.Read
import LiveConfig.Store.Reload
/-!
Settings written to a file, loaded and decoded.

A setting is a key with a value of a type. Written line by line in double quotes, settings load in
every environment, and a schema that declares their keys with their types finds their values: a
number or a switch as it was, and a text without the blanks at its ends.
-/

set_option autoImplicit false

namespace LiveConfig

/-! ### Settings from entries -/

namespace Settings

theorem get?_foldl_insert (l : List (String × String)) (m : Settings) (key : String) :
    (l.foldl (fun m e => m.insert e.1 e.2) m).get? key =
      ((l.reverse.find? (·.1 = key)).map (·.2)).or (m.get? key) := by
  induction l generalizing m with
  | nil => rfl
  | cons e l ih =>
      rw [List.foldl_cons, ih, get?_insert, List.reverse_cons, List.find?_append]
      cases l.reverse.find? (·.1 = key) with
      | some found => rfl
      | none =>
          by_cases hkey : key = e.1
          · simp [hkey]
          · have hne : ¬e.1 = key := fun h => hkey h.symm
            simp [hkey, hne]

theorem get?_ofList (l : List (String × String)) (key : String) :
    (ofList l).get? key = (l.reverse.find? (·.1 = key)).map (·.2) := by
  rw [ofList, get?_foldl_insert, get?_empty, Option.or_none]

theorem get?_ofList_eq_some {l : List (String × String)} (h : (l.map (·.1)).Nodup)
    {key text : String} : (ofList l).get? key = some text ↔ (key, text) ∈ l := by
  rw [get?_ofList]
  constructor
  · intro hfound
    obtain ⟨⟨key', text'⟩, hfind, rfl⟩ := Option.map_eq_some_iff.mp hfound
    obtain rfl : key' = key := by simpa using List.find?_some hfind
    exact List.mem_reverse.mp (List.mem_of_find?_eq_some hfind)
  · intro hmem
    induction l with
    | nil => exact absurd hmem List.not_mem_nil
    | cons e l ih =>
        obtain ⟨hfirst, hrest⟩ := List.nodup_cons.mp h
        rw [List.reverse_cons, List.find?_append]
        rcases List.mem_cons.mp hmem with rfl | hmem
        · have hnone : l.reverse.find? (·.1 = key) = none := by
            rw [List.find?_eq_none]
            intro e he hkey
            have hkey : e.1 = key := of_decide_eq_true hkey
            have hmem := @List.mem_map_of_mem _ _ _ _ (·.1) (List.mem_reverse.mp he)
            exact hfirst (hkey ▸ hmem)
          simp [hnone]
        · have hlater := ih hrest hmem
          obtain ⟨e, hfind, htext⟩ := Option.map_eq_some_iff.mp hlater
          simp [hfind, htext]

theorem present?_of_get? {m : Settings} {key raw : String} (h : m.get? key = some raw) :
    m.present? key = if Text.blank raw then none else some (Text.trim raw) := by
  rw [present?, h]
  rfl

theorem present?_visible {m : Settings} {key : String} {l : List Char}
    (h : m.get? key = some (String.ofList l)) (hl : l ≠ [])
    (hvisible : ∀ c ∈ l, Text.isBlank c = false) : m.present? key = some (String.ofList l) := by
  rw [present?_of_get? h, Text.blank_visible hl hvisible, Text.trim_visible hvisible]
  rfl

end Settings

/-! ### Values and their texts -/

namespace FieldType

/-- The values of a type; those of an integer type are in its range. -/
def Fits : (t : FieldType) → t.Value → Prop
  | bool, _ | text, _ => True
  | int t, n => t.Holds n

instance : (t : FieldType) → (v : t.Value) → Decidable (t.Fits v)
  | bool, _ | text, _ => inferInstanceAs (Decidable True)
  | int t, n => inferInstanceAs (Decidable (t.Holds n))

def found : (t : FieldType) → t.Value → Option t.Value
  | bool, b => some b
  | text, s => if Text.blank s then none else some (Text.trim s)
  | int _, n => some n

theorem read?_present {t : FieldType} {v : t.Value} (h : t.Fits v) {m : Settings} {key : String}
    (hkey : m.get? key = some (t.render v)) :
    (m.present? key).map t.read? = (t.found v).map some := by
  cases t with
  | bool =>
      rw [Settings.present?_of_get? hkey]
      cases v with
      | true => decide
      | false => decide
  | text =>
      have hpresent := Settings.present?_of_get? hkey
      change m.present? key = if Text.blank v then none else some (Text.trim v) at hpresent
      rw [hpresent, found]
      cases Text.blank v with
      | true => rfl
      | false => rfl
  | int t =>
      have hvisible : ∀ c ∈ (toString v).toList, Text.isBlank c = false := by
        intro c hc
        rcases Numeral.mem_toString hc with rfl | hdigit
        · decide
        · exact Text.isBlank_of_isAlphanum (by simp [Char.isAlphanum, hdigit])
      have htext : m.get? key = some (String.ofList (toString v).toList) := by
        rw [String.ofList_toList]
        exact hkey
      have hpresent := Settings.present?_visible htext (Numeral.toString_ne_nil v) hvisible
      rw [String.ofList_toList] at hpresent
      rw [hpresent]
      exact congrArg some (Numeral.readInt?_toString h)

end FieldType

/-! ### Settings as they are written -/

/-- A key with a value of a type. -/
structure Setting where
  key : String
  type : FieldType
  value : type.Value
  isKey : EnvText.IsKey key.toList
  fits : type.Fits value

namespace Setting

def text (s : Setting) : String := s.type.render s.value

def line (s : Setting) : List Char :=
  s.key.toList ++ '=' :: '"' :: (EnvText.escape s.text.toList ++ ['"', '\n'])

def written (settings : List Setting) : String := String.ofList (settings.flatMap line)

def assignment (s : Setting) : EnvText.Line :=
  .assignment
    { key := s.key
      value := s.text
      quoting := .double
      isKey := s.isKey
      fits := fun _ _ => rfl
      firm := nofun }

theorem written_eq (settings : List Setting) :
    written settings = EnvText.Document.text (settings.map assignment) := by
  have hline : ∀ s : Setting, s.line = s.assignment.chars ++ ['\n'] := by
    intro s
    simp [line, assignment, EnvText.Line.chars, EnvText.Assignment.body, EnvText.Assignment.left,
      EnvText.Spaces.none, EnvText.Quoting.write, EnvText.Ending.chars]
  rw [written, EnvText.Document.text, List.flatMap_map]
  exact congrArg (fun f => String.ofList (settings.flatMap f)) (funext hline)

theorem parse_written (env : EnvText.Environment) (settings : List Setting) :
    EnvText.parseBytes env (written settings).toUTF8 =
      .ok (.ofList (settings.map fun s => (s.key, s.text))) := by
  rw [written_eq, EnvText.parseBytes_document, EnvText.Document.settings, List.filterMap_map]
  have hentry : EnvText.Line.entry? ∘ assignment = some ∘ fun s => (s.key, s.text) := rfl
  rw [hentry, List.filterMap_eq_map]

end Setting

/-! ### Declarations -/

structure Declaration (T : Type) where
  setting : Setting
  required : Bool
  set : setting.type.Value → T → T

namespace Declaration

variable {T : Type}

def field (d : Declaration T) : Field T := ⟨d.setting.key, d.setting.type, d.required, d.set⟩

def found (d : Declaration T) : Option d.setting.type.Value := d.setting.type.found d.setting.value

def Lacks (d : Declaration T) : Prop := d.required = true ∧ d.found = none

instance (d : Declaration T) : Decidable d.Lacks := inferInstanceAs (Decidable (_ ∧ _))

def apply (target : T) (d : Declaration T) : T :=
  match d.found with
  | none => target
  | some v => d.set v target

theorem decode_field (d : Declaration T) {m : Settings}
    (hkey : m.get? d.setting.key = some d.setting.text) (target : T) :
    (d.Lacks → d.field.decode m target = .error (.missing d.setting.key)) ∧
      (¬d.Lacks → d.field.decode m target = .ok (d.apply target)) := by
  have hread : (m.present? d.setting.key).map d.setting.type.read? = d.found.map some :=
    FieldType.read?_present d.setting.fits hkey
  simp only [Lacks, apply, Field.decode, field]
  cases hd : d.found with
  | none =>
      rw [hd] at hread
      have hpresent : m.present? d.setting.key = none := Option.map_eq_none_iff.mp hread
      simp +contextual [hpresent]
  | some v =>
      rw [hd] at hread
      obtain ⟨text, hpresent, hvalue⟩ := Option.map_eq_some_iff.mp hread
      simp [hpresent, hvalue]

variable {declared : List (Declaration T)} {m : Settings}

theorem decodeFields_append (h : ∀ d ∈ declared, m.get? d.setting.key = some d.setting.text)
    (hfound : ∀ d ∈ declared, ¬d.Lacks) (fields : List (Field T)) (target : T) :
    decodeFields m (declared.map field ++ fields) target =
      decodeFields m fields (declared.foldl apply target) := by
  induction declared generalizing target with
  | nil => rfl
  | cons d rest ih =>
      have hfirst := (d.decode_field (h d List.mem_cons_self) target).2
        (hfound d List.mem_cons_self)
      have hrest := ih (fun e he => h e (List.mem_cons_of_mem d he))
        (fun e he => hfound e (List.mem_cons_of_mem d he)) (d.apply target)
      rw [List.map_cons, List.cons_append, decodeFields, hfirst]
      exact hrest

theorem decode_all (h : ∀ d ∈ declared, m.get? d.setting.key = some d.setting.text)
    (hfound : ∀ d ∈ declared, ¬d.Lacks) (target : T) :
    Schema.decode ⟨declared.map field⟩ m target = (declared.foldl apply target, none) := by
  have hall := decodeFields_append h hfound [] target
  rw [List.append_nil] at hall
  exact hall

theorem decode_lacking {before after : List (Declaration T)} {d : Declaration T}
    (h : ∀ e ∈ before ++ d :: after, m.get? e.setting.key = some e.setting.text)
    (hfound : ∀ e ∈ before, ¬e.Lacks) (hlacks : d.Lacks) (target : T) :
    Schema.decode ⟨(before ++ d :: after).map field⟩ m target =
      (before.foldl apply target, some (.missing d.setting.key)) := by
  have hd : d ∈ before ++ d :: after := List.mem_append_right before List.mem_cons_self
  have hstop := (d.decode_field (h d hd) (before.foldl apply target)).1 hlacks
  rw [Schema.decode, List.map_append, List.map_cons,
    decodeFields_append (fun e he => h e (List.mem_append_left (d :: after) he)) hfound,
    decodeFields, hstop]

end Declaration

/-! ### A round trip -/

variable {V : Vocabulary} {σ : Type}

/-- Settings with different keys that are written to the file of a store are its settings after a
load, and a schema that declares some of them decodes to what is found of them. -/
theorem Loader.load_recovers (l : Loader V σ) (w : World V σ) (settings : List Setting)
    (hkeys : (settings.map (·.key)).Nodup) (hrevision : w.store.registry.revision = none)
    (hfile : l.read w.outside w.store.path = .ok (Setting.written settings).toUTF8) :
    (l.load w).1 = .ok () ∧
      (∃ m, (l.load w).2.store.items = .ok m ∧ ∀ key text, m.get? key = some text ↔
        ∃ s ∈ settings, s.key = key ∧ s.text = text) ∧
      ∀ (T : Type) (declared : List (Declaration T)) (target : T),
        (∀ d ∈ declared, d.setting ∈ settings) →
        ((∀ d ∈ declared, ¬d.Lacks) →
          (l.load w).2.store.decodeInto ⟨declared.map (·.field)⟩ target =
            (declared.foldl Declaration.apply target, none)) ∧
        ∀ (before : List (Declaration T)) (d : Declaration T) (after : List (Declaration T)),
          declared = before ++ d :: after → (∀ e ∈ before, ¬e.Lacks) → d.Lacks →
          (l.load w).2.store.decodeInto ⟨declared.map (·.field)⟩ target =
            (before.foldl Declaration.apply target,
              some (.load (.decode (.missing d.setting.key)))) := by
  let m := Settings.ofList (settings.map fun s => (s.key, s.text))
  have hfresh : l.fresh w = (.ok m, w) := by
    rw [fresh, hfile, loadContent, Setting.parse_written, hrevision]
    rfl
  have hload : l.load w =
      (.ok (), { w with store := { w.store with settings := some m } }) := by
    rw [load, hfresh]
  have hget : ∀ key text, m.get? key = some text ↔ ∃ s ∈ settings, s.key = key ∧ s.text = text := by
    intro key text
    have hnodup : ((settings.map fun s => (s.key, s.text)).map (·.1)).Nodup := by
      rw [List.map_map]
      exact hkeys
    rw [Settings.get?_ofList_eq_some hnodup, List.mem_map]
    simp only [Prod.mk.injEq]
  rw [hload]
  refine ⟨rfl, ⟨m, rfl, hget⟩, ?_⟩
  intro T declared target hdeclared
  have hpresent : ∀ d ∈ declared, m.get? d.setting.key = some d.setting.text := fun d hd =>
    (hget _ _).mpr ⟨d.setting, hdeclared d hd, rfl, rfl⟩
  constructor
  · intro hfound
    have hall := Declaration.decode_all hpresent hfound target
    exact congrArg (fun r => (r.1, r.2.map fun e => StoreError.load (.decode e))) hall
  · rintro before d after rfl hfound hlacks
    have hlacking := Declaration.decode_lacking hpresent hfound hlacks target
    exact congrArg (fun r => (r.1, r.2.map fun e => StoreError.load (.decode e))) hlacking

/-- Characters with a meaning of their own, at both ends of a text and inside it. -/
def Setting.hostile : List Setting :=
  [⟨"_path.1", .text, "\r\n '\"$HOME\" $_path.1 # \\n\n\"\\\r", by decide, trivial⟩,
    ⟨"least", .int ⟨true, .w8⟩, -128, by decide, by decide⟩,
    ⟨"on", .bool, false, by decide, trivial⟩,
    ⟨"blank", .text, " \t\n\n", by decide, trivial⟩]

def Declaration.collecting (required : Bool) (settings : List Setting) :
    List (Declaration (List String)) :=
  settings.map fun s => ⟨s, required, fun v texts => texts ++ [s.type.render v]⟩

theorem Loader.load_recovers_hostile :
    let l : Loader ⟨Empty, Empty, Empty, Empty⟩ ByteArray :=
      { read := fun bytes _ => .ok bytes, environment := fun _ => some "x", revise := nofun }
    let s := (l.load ⟨{ path := "/f" }, (Setting.written Setting.hostile).toUTF8⟩).2.store
    let texts := ["'\"$HOME\" $_path.1 # \\n\n\"\\", "-128", "false"]
    s.decodeInto ⟨(Declaration.collecting false Setting.hostile).map (·.field)⟩ [] = (texts, none) ∧
      s.decodeInto ⟨(Declaration.collecting true Setting.hostile).map (·.field)⟩ [] =
        (texts, some (.load (.decode (.missing "blank")))) := by
  intro l s texts
  have hmem : ∀ required, ∀ d ∈ Declaration.collecting required Setting.hostile,
      d.setting ∈ Setting.hostile := by
    intro required d hd
    obtain ⟨setting, hsetting, rfl⟩ := List.mem_map.mp hd
    exact hsetting
  obtain ⟨-, -, hdecoded⟩ := Loader.load_recovers l
    ⟨{ path := "/f" }, (Setting.written Setting.hostile).toUTF8⟩ Setting.hostile
    (by decide) rfl rfl
  constructor
  · have hall := (hdecoded _ _ [] (hmem false)).1 (by decide)
    exact hall.trans (by decide)
  · let d := (Declaration.collecting true Setting.hostile).get ⟨3, by decide⟩
    have hblank := (hdecoded _ _ [] (hmem true)).2
      (Declaration.collecting true (Setting.hostile.take 3)) d [] rfl (by decide) (by decide)
    exact hblank.trans (by decide)

end LiveConfig
