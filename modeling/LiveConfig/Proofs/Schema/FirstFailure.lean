import LiveConfig.Proofs.Text.Trimmed
import LiveConfig.Schema
import Mathlib.Data.List.TakeWhile
/-!
Decoding stops at the first field that fails, and nowhere else.

A field is missing when its key is absent or nothing is left of the value once it is trimmed, and
bad when something is left that does not convert. Bad fields fail, and so do missing ones that are
required. The setters of the fields before the first failure are applied in order, each to what its
trimmed value converts to, and a field that is missing is passed over.
-/

set_option autoImplicit false

namespace LiveConfig

variable {T : Type}

/-! ### Blank texts -/

namespace Text

theorem trimStart_eq_nil_iff {l : List Char} : trimStart l = [] ↔ l.all isBlank = true := by
  rw [trimStart, List.dropWhile_eq_nil_iff, List.all_eq_true]

theorem trimEnd_eq_nil_iff {l : List Char} : trimEnd l = [] ↔ l.all isBlank = true := by
  refine ⟨fun h => ?_, trimEnd_blank⟩
  induction l with
  | nil => rfl
  | cons c l ih =>
      rw [trimEnd] at h
      cases hrest : trimEnd l with
      | nil =>
          simp only [hrest, ite_eq_left_iff, List.cons_ne_self, imp_false, Bool.not_eq_true,
            Bool.not_eq_false] at h
          rw [List.all_cons, h, ih hrest]
          rfl
      | cons d kept => simp [hrest] at h

theorem trim_eq_empty_iff {s : String} : trim s = "" ↔ blank s = true := by
  rw [trim, String.ofList_eq_empty_iff, trimEnd_eq_nil_iff, blank]
  constructor
  · intro h
    cases hstart : trimStart s.toList with
    | nil => exact trimStart_eq_nil_iff.mp hstart
    | cons c rest =>
        -- the first character that is left is not blank
        have hfirst : isBlank c = false := by
          have hhead := List.head?_dropWhile_not isBlank s.toList
          rw [← trimStart, hstart] at hhead
          simpa using hhead
        rw [hstart, List.all_cons, hfirst] at h
        cases h
  · intro h
    rw [trimStart_eq_nil_iff.mpr h]
    rfl

end Text

theorem Settings.present?_eq_none_iff {m : Settings} {key : String} :
    m.present? key = none ↔ ∀ raw, m.get? key = some raw → Text.trim raw = "" := by
  rw [present?]
  cases hraw : m.get? key with
  | none => simp
  | some raw => simp [Text.trim_eq_empty_iff]

theorem Settings.present?_eq_some_iff {m : Settings} {key text : String} :
    m.present? key = some text ↔
      ∃ raw, m.get? key = some raw ∧ Text.trim raw = text ∧ text ≠ "" := by
  rw [present?]
  cases hraw : m.get? key with
  | none => simp
  | some raw =>
      have hpresent : ((if Text.blank raw then none else some (Text.trim raw)) = some text) ↔
          Text.trim raw = text ∧ Text.trim raw ≠ "" := by
        rw [Ne, Text.trim_eq_empty_iff]
        cases Text.blank raw <;> simp
      rw [Option.bind_some, hpresent]
      constructor
      · rintro ⟨rfl, hne⟩
        exact ⟨raw, rfl, rfl, hne⟩
      · rintro ⟨raw', hsame, rfl, hne⟩
        obtain rfl := Option.some.inj hsame
        exact ⟨rfl, hne⟩

/-! ### One field -/

namespace Field

variable (f : Field T) (m : Settings)

/-- The key is absent, or nothing is left of its value once it is trimmed. -/
def Missing : Prop := ∀ raw, m.get? f.key = some raw → Text.trim raw = ""

/-- Something is left of the value of the key once it is trimmed. -/
def Has (text : String) : Prop :=
  ∃ raw, m.get? f.key = some raw ∧ Text.trim raw = text ∧ text ≠ ""

/-- Why a field fails: it is required and missing, or it is bad. -/
inductive Fails : DecodeError → Prop
  | missing : f.required = true → f.Missing m → Fails (.missing f.key)
  | bad {text : String} : f.Has m text → f.type.read? text = none →
      Fails (.invalid f.key text f.type)

def Stops : Prop := ∃ e, f.Fails m e

/-- The setter of a field that is not missing, with what its trimmed value converts to. -/
def setter? : Option (T → T) :=
  (m.get? f.key).bind fun raw =>
    if Text.trim raw = "" then none else (f.type.read? (Text.trim raw)).map f.set

def failure? : Option DecodeError :=
  match m.present? f.key with
  | none => if f.required = true then some (.missing f.key) else none
  | some text =>
      match f.type.read? text with
      | none => some (.invalid f.key text f.type)
      | some _ => none

variable {f m} {text : String} {e : DecodeError}

theorem missing_iff : f.Missing m ↔ m.present? f.key = none :=
  Settings.present?_eq_none_iff.symm

theorem has_iff : f.Has m text ↔ m.present? f.key = some text :=
  Settings.present?_eq_some_iff.symm

theorem setter?_of_missing (h : f.Missing m) : f.setter? m = none := by
  rw [setter?]
  cases hraw : m.get? f.key with
  | none => rfl
  | some raw => rw [Option.bind_some, if_pos (h raw hraw)]

theorem setter?_of_has (h : f.Has m text) : f.setter? m = (f.type.read? text).map f.set := by
  obtain ⟨raw, hraw, rfl, hne⟩ := h
  rw [setter?, hraw, Option.bind_some, if_neg hne]

theorem decode_of_fails (h : f.Fails m e) (target : T) : f.decode m target = .error e := by
  cases h with
  | missing hrequired hmissing =>
      simp only [decode, missing_iff.mp hmissing, hrequired, if_true]
  | bad hhas hread => simp only [decode, has_iff.mp hhas, hread]

theorem decode_of_not_stops (h : ¬f.Stops m) (target : T) :
    f.decode m target = .ok (((f.setter? m).map (· target)).getD target) := by
  cases hpresent : m.present? f.key with
  | none =>
      have hmissing := missing_iff.mpr hpresent
      have hoptional : ¬f.required = true := fun hrequired => h ⟨_, .missing hrequired hmissing⟩
      rw [setter?_of_missing hmissing]
      simp only [decode, hpresent, if_neg hoptional]
      rfl
  | some text =>
      have hhas := has_iff.mpr hpresent
      rw [setter?_of_has hhas]
      cases hread : f.type.read? text with
      | none => exact absurd ⟨_, .bad hhas hread⟩ h
      | some value =>
          simp only [decode, hpresent, hread]
          rfl

theorem fails_iff : f.Fails m e ↔ f.failure? m = some e := by
  constructor
  · rintro (⟨hrequired, hmissing⟩ | ⟨hhas, hread⟩)
    · simp only [failure?, missing_iff.mp hmissing, hrequired, if_true]
    · simp only [failure?, has_iff.mp hhas, hread]
  · intro h
    cases hpresent : m.present? f.key with
    | none =>
        simp only [failure?, hpresent, Option.ite_none_right_eq_some] at h
        obtain ⟨hrequired, he⟩ := h
        obtain rfl := Option.some.inj he
        exact .missing hrequired (missing_iff.mpr hpresent)
    | some text =>
        cases hread : f.type.read? text with
        | none =>
            simp only [failure?, hpresent, hread, Option.some.injEq] at h
            subst h
            exact .bad (has_iff.mpr hpresent) hread
        | some value => simp [failure?, hpresent, hread] at h

instance : Decidable (f.Stops m) :=
  decidable_of_iff (∃ e ∈ f.failure? m, True) (by simp [Stops, fails_iff])

theorem decode_congr {m' : Settings} (h : m'.get? f.key = m.get? f.key) (target : T) :
    f.decode m' target = f.decode m target := by
  simp only [decode, Settings.present?, h]

end Field

/-! ### All fields -/

/-- The target with the setters of fields applied in order, those of missing fields left out. -/
def Settings.fill (m : Settings) (fields : List (Field T)) (target : T) : T :=
  (fields.filterMap (·.setter? m)).foldl (fun target set => set target) target

theorem Settings.fill_cons (m : Settings) (f : Field T) (fields : List (Field T)) (target : T) :
    m.fill (f :: fields) target =
      m.fill fields (((f.setter? m).map (· target)).getD target) := by
  rw [fill, List.filterMap_cons]
  cases f.setter? m <;> rfl

theorem decodeFields_of_passed {m : Settings} {before : List (Field T)}
    (h : ∀ f ∈ before, ¬f.Stops m) (fields : List (Field T)) (target : T) :
    decodeFields m (before ++ fields) target = decodeFields m fields (m.fill before target) := by
  induction before generalizing target with
  | nil => rfl
  | cons f before ih =>
      have hfirst := Field.decode_of_not_stops (h f List.mem_cons_self) target
      have hrest : ∀ g ∈ before, ¬g.Stops m := fun g hg => h g (List.mem_cons_of_mem f hg)
      rw [List.cons_append, decodeFields, hfirst, Settings.fill_cons]
      exact ih hrest _

/-- If some field fails, there is a first one. -/
theorem exists_first_failure {m : Settings} {fields : List (Field T)}
    (h : ∃ f ∈ fields, f.Stops m) : ∃ before f after e, fields = before ++ f :: after ∧
      (∀ g ∈ before, ¬g.Stops m) ∧ f.Fails m e := by
  induction fields with
  | nil =>
      obtain ⟨f, hf, -⟩ := h
      exact absurd hf List.not_mem_nil
  | cons g fields ih =>
      by_cases hg : g.Stops m
      · obtain ⟨e, he⟩ := hg
        exact ⟨[], g, fields, e, rfl, by simp, he⟩
      · obtain ⟨f, hf, hstops⟩ := h
        have hmem : f ∈ fields := by
          rcases List.mem_cons.mp hf with rfl | hmem
          · exact absurd hstops hg
          · exact hmem
        obtain ⟨before, f, after, e, rfl, hbefore, he⟩ := ih ⟨f, hmem, hstops⟩
        exact ⟨g :: before, f, after, e, rfl, List.forall_mem_cons.mpr ⟨hg, hbefore⟩, he⟩

theorem decodeFields_congr {m m' : Settings} {fields : List (Field T)}
    (h : ∀ f ∈ fields, m'.get? f.key = m.get? f.key) (target : T) :
    decodeFields m' fields target = decodeFields m fields target := by
  induction fields generalizing target with
  | nil => rfl
  | cons f fields ih =>
      have hrest : ∀ g ∈ fields, m'.get? g.key = m.get? g.key := fun g hg =>
        h g (List.mem_cons_of_mem f hg)
      rw [decodeFields, decodeFields, Field.decode_congr (h f List.mem_cons_self)]
      cases f.decode m target with
      | error e => rfl
      | ok target => exact ih hrest target

/-- If no field fails, the target has what the fields found, set in the order of declaration.
Otherwise there is a first field that fails, its error is the result, and the target has what the
fields before it found. Nothing but the values of the declared keys counts. -/
theorem Schema.decode_first_failure (s : Schema T) (m : Settings) (target : T) :
    ((∀ f ∈ s.fields, ¬f.Stops m) → s.decode m target = (m.fill s.fields target, none)) ∧
    (∀ before f after e, s.fields = before ++ f :: after → (∀ g ∈ before, ¬g.Stops m) →
      f.Fails m e → s.decode m target = (m.fill before target, some e)) ∧
    ((∃ f ∈ s.fields, f.Stops m) → ∃ before f after e, s.fields = before ++ f :: after ∧
      (∀ g ∈ before, ¬g.Stops m) ∧ f.Fails m e) ∧
    ∀ m' : Settings, (∀ key ∈ s.keys, m'.get? key = m.get? key) →
      s.decode m' target = s.decode m target := by
  refine ⟨?_, ?_, exists_first_failure, ?_⟩
  · intro hpass
    have hall := decodeFields_of_passed hpass [] target
    rwa [List.append_nil] at hall
  · intro before f after e hfields hpass hfails
    rw [decode, hfields, decodeFields_of_passed hpass, decodeFields,
      Field.decode_of_fails hfails]
  · intro m' hkeys
    exact decodeFields_congr (fun f hf => hkeys f.key (List.mem_map_of_mem hf)) target

private def collecting (key : String) (type : FieldType) (required : Bool) : Field (List String) :=
  ⟨key, type, required, fun v texts => texts ++ [type.render v]⟩

/-- One key is declared twice, with different types; a blank text is passed over, and the last field
is never reached. -/
theorem Schema.decode_first_failure_repeated :
    let m : Settings := .ofList [("port", "\u00a0 300\n"), ("name", " \t"), ("on", " No ")]
    let before := [collecting "port" (.int ⟨false, .w16⟩) true, collecting "name" .text false,
      collecting "on" .bool true]
    let f := collecting "port" (.int ⟨false, .w8⟩) false
    (∀ g ∈ before, ¬g.Stops m) ∧
      Schema.decode ⟨before ++ f :: [collecting "name" .text true]⟩ m ["start"] =
        (["start", "300", "true"], some (.invalid "port" "300" (.int ⟨false, .w8⟩))) := by
  intro m before f
  have hpass : ∀ g ∈ before, ¬g.Stops m := by decide
  have hfails : f.Fails m (.invalid "port" "300" (.int ⟨false, .w8⟩)) :=
    Field.fails_iff.mpr (by decide)
  obtain ⟨-, hfirst, -⟩ :=
    decode_first_failure ⟨before ++ f :: [collecting "name" .text true]⟩ m ["start"]
  exact ⟨hpass, (hfirst before f _ _ rfl hpass hfails).trans (by decide)⟩

end LiveConfig
