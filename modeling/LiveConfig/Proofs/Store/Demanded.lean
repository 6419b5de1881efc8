import LiveConfig.Proofs.Schema.FirstFailure
import LiveConfig.Store.Read
/-!
A key that is demanded and a key that is decoded.

A store can be asked for the value of a key, which panics if there is none, and a schema can declare
the key as a required field. The two ways apply the same rules: what is missing for the one is
undefined for the other, and what the one sets the other returns.
-/

set_option autoImplicit false

namespace LiveConfig

namespace Panic

def unloaded : Panic := ⟨"config unloaded"⟩

def undefined (key : String) : Panic := ⟨"config " ++ key ++ " undefined"⟩

def unconvertible (key : String) : Panic := ⟨"config " ++ key ++ " convert to int failed"⟩

theorem undefined_ne_unconvertible (key : String) : undefined key ≠ unconvertible key := by
  intro h
  have htext := congrArg (String.toList ∘ Panic.message) h
  simp [undefined, unconvertible] at htext

end Panic

namespace Store

variable {V : Vocabulary} {s : Store V} {m : Settings} {key : String} {type : FieldType}

/-- Decodes a key as the only field, which is required; the target takes the value that is set. -/
def recorded (s : Store V) (key : String) (type : FieldType) :
    Option type.Value × Option StoreError :=
  s.decodeInto (Schema.empty.required key type fun v _ => some v) none

def demandAs (s : Store V) (key : String) (type : FieldType) : Except Panic type.Value := do
  match type.read? (Text.trim (← s.demand key)) with
  | some v => .ok v
  | none => .error (.unconvertible key)

/-- The two ways of reading a key end alike. -/
inductive Alike (key : String) (type : FieldType) :
    Except Panic type.Value → Option type.Value × Option StoreError → Prop
  | found (v : type.Value) : Alike key type (.ok v) (some v, none)
  | undefined :
      Alike key type (.error (.undefined key)) (none, some (.load (.decode (.missing key))))
  | unconvertible {text : String} : type.read? text = none →
      Alike key type (.error (.unconvertible key))
        (none, some (.load (.decode (.invalid key text type))))

namespace Alike

variable {d : Except Panic type.Value} {r : Option type.Value × Option StoreError}

theorem ok_iff (h : Alike key type d r) (v : type.Value) : d = .ok v ↔ r = (some v, none) := by
  cases h with
  | found w => simp
  | undefined => simp
  | unconvertible hread => simp

theorem undefined_iff (h : Alike key type d r) :
    d = .error (.undefined key) ↔ r = (none, some (.load (.decode (.missing key)))) := by
  cases h with
  | found v => simp
  | undefined => simp
  | unconvertible hread => simp [(Panic.undefined_ne_unconvertible key).symm]

theorem unconvertible_iff (h : Alike key type d r) : d = .error (.unconvertible key) ↔
    ∃ text, r = (none, some (.load (.decode (.invalid key text type)))) := by
  cases h with
  | found v => simp
  | undefined => simp [Panic.undefined_ne_unconvertible key]
  | unconvertible hread => simp

theorem error_or (h : Alike key type d r) {p : Panic} (hp : d = .error p) :
    p = .undefined key ∨ p = .unconvertible key := by
  cases h with
  | found v => cases hp
  | undefined => exact .inl (Except.error.inj hp).symm
  | unconvertible hread => exact .inr (Except.error.inj hp).symm

theorem error_iff (h : Alike key type d r) (htotal : ∀ text, type.read? text ≠ none) (p : Panic) :
    d = .error p ↔ p = .undefined key ∧ r = (none, some (.load (.decode (.missing key)))) := by
  cases h with
  | found v => simp
  | undefined => simp [eq_comm]
  | unconvertible hread => exact absurd hread (htotal _)

end Alike

/-! ### The three ways to demand a key -/

theorem demandAs_text (s : Store V) (key : String) :
    s.demandAs key .text = (s.demand key).map Text.trim := by
  rw [demandAs]
  cases s.demand key <;> rfl

theorem demandInt_eq (s : Store V) (key : String) :
    s.demandInt key = s.demandAs key (.int ⟨true, .w64⟩) := by
  rw [demandInt, demandAs]
  cases s.demand key with
  | error p => rfl
  | ok raw =>
      simp only [Bind.bind, Except.bind, FieldType.read?]
      cases Numeral.readInt? ⟨true, .w64⟩ (Text.trim raw) <;> rfl

theorem demandBool_eq (s : Store V) (key : String) :
    s.demandBool key = s.demandAs key .bool := by
  rw [demandBool, demandAs]
  cases s.demand key <;> rfl

/-! ### A loaded store -/

theorem demand_of_absent (h : s.settings = some m) (hkey : m.present? key = none) :
    s.demand key = .error (.undefined key) := by
  simp only [demand, h]
  cases hraw : m.get? key with
  | none => rfl
  | some raw =>
      have hblank : Text.blank raw = true :=
        Text.trim_eq_empty_iff.mp (Settings.present?_eq_none_iff.mp hkey raw hraw)
      simp only [hblank, if_true]
      rfl

theorem demand_of_present {text : String} (h : s.settings = some m)
    (hkey : m.present? key = some text) :
    ∃ raw, s.demand key = .ok raw ∧ Text.trim raw = text := by
  obtain ⟨raw, hraw, htext, hne⟩ := Settings.present?_eq_some_iff.mp hkey
  have hvisible : ¬Text.blank raw = true := by
    rw [← Text.trim_eq_empty_iff, htext]
    exact hne
  refine ⟨raw, ?_, htext⟩
  simp only [demand, h, hraw, if_neg hvisible]

theorem decodeInto_required {T : Type} (h : s.settings = some m) (key : String) (type : FieldType)
    (set : type.Value → T → T) (start : T) :
    s.decodeInto (Schema.empty.required key type set) start =
      match m.present? key with
      | none => (start, some (.load (.decode (.missing key))))
      | some text =>
          match type.read? text with
          | none => (start, some (.load (.decode (.invalid key text type))))
          | some v => (set v start, none) := by
  have hitems : s.items = .ok m := by rw [items, h]
  simp only [decodeInto, hitems, Schema.required, Schema.empty, List.nil_append, Schema.decode,
    decodeFields, Field.decode]
  cases m.present? key with
  | none => rfl
  | some text => cases hread : type.read? text <;> simp [hread]

theorem alike (h : s.settings = some m) (key : String) (type : FieldType) :
    Alike key type (s.demandAs key type) (s.recorded key type) := by
  rw [recorded, decodeInto_required h]
  cases hkey : m.present? key with
  | none =>
      rw [demandAs, demand_of_absent h hkey]
      exact .undefined
  | some text =>
      obtain ⟨raw, hdemand, rfl⟩ := demand_of_present h hkey
      rw [demandAs, hdemand]
      cases hread : type.read? (Text.trim raw) with
      | none => simpa [Bind.bind, Except.bind, hread] using Alike.unconvertible hread
      | some v => simpa [Bind.bind, Except.bind, hread] using Alike.found v

/-- What is recorded of a key, every target takes that declares it. -/
theorem decodeInto_recorded {T : Type} (h : s.settings = some m) (key : String) (type : FieldType)
    (set : type.Value → T → T) (start : T) :
    s.decodeInto (Schema.empty.required key type set) start =
      ((s.recorded key type).1.elim start (set · start), (s.recorded key type).2) := by
  rw [recorded, decodeInto_required h, decodeInto_required h]
  cases m.present? key with
  | none => rfl
  | some text => cases hread : type.read? text <;> simp [hread]

/-- A loaded store is asked for a key and decodes it as a required field with the same result: a text
up to the blanks around it, an integer, or a switch. A store without settings gives nothing either
way. -/
theorem demands_as_decoded (s : Store V) (key : String) :
    (s.isLoaded = true →
      (∀ (T : Type) (type : FieldType) (set : type.Value → T → T) (start : T),
        s.decodeInto (Schema.empty.required key type set) start =
          ((s.recorded key type).1.elim start (set · start), (s.recorded key type).2)) ∧
      (∀ p, s.demand key = .error p ↔ p = .undefined key ∧
        s.recorded key .text = (none, some (.load (.decode (.missing key))))) ∧
      (∀ raw, s.demand key = .ok raw → s.recorded key .text = (some (Text.trim raw), none)) ∧
      (∀ n, s.demandInt key = .ok n ↔ s.recorded key (.int ⟨true, .w64⟩) = (some n, none)) ∧
      (s.demandInt key = .error (.undefined key) ↔
        s.recorded key (.int ⟨true, .w64⟩) = (none, some (.load (.decode (.missing key))))) ∧
      (s.demandInt key = .error (.unconvertible key) ↔ ∃ text,
        s.recorded key (.int ⟨true, .w64⟩) =
          (none, some (.load (.decode (.invalid key text (.int ⟨true, .w64⟩)))))) ∧
      (∀ p, s.demandInt key = .error p → p = .undefined key ∨ p = .unconvertible key) ∧
      (∀ b, s.demandBool key = .ok b ↔ s.recorded key .bool = (some b, none)) ∧
      ∀ p, s.demandBool key = .error p ↔ p = .undefined key ∧
        s.recorded key .bool = (none, some (.load (.decode (.missing key))))) ∧
    (s.isLoaded = false →
      s.demand key = .error .unloaded ∧ s.demandInt key = .error .unloaded ∧
      s.demandBool key = .error .unloaded ∧
      ∀ (T : Type) (schema : Schema T) (start : T),
        s.decodeInto schema start = (start, some .notLoaded) ∧
          s.decoded schema start = .error .notLoaded) := by
  constructor
  · intro hloaded
    obtain ⟨m, h⟩ := Option.isSome_iff_exists.mp hloaded
    have htext := alike h key .text
    have hint := alike h key (.int ⟨true, .w64⟩)
    have hbool := alike h key .bool
    rw [demandInt_eq, demandBool_eq]
    refine ⟨fun T => decodeInto_recorded h key, ?_, ?_, hint.ok_iff, hint.undefined_iff,
      hint.unconvertible_iff, fun p => hint.error_or, hbool.ok_iff, hbool.error_iff nofun⟩
    · intro p
      rw [← htext.error_iff nofun, demandAs_text]
      cases s.demand key <;> simp [Except.map]
    · intro raw hraw
      rw [← htext.ok_iff, demandAs_text, hraw]
      rfl
  · intro hloaded
    have h : s.settings = none := Option.not_isSome_iff_eq_none.mp (by simpa [isLoaded] using hloaded)
    have hdemand : s.demand key = .error .unloaded := by
      simp only [demand, h]
      rfl
    have hitems : s.items = .error .notLoaded := by rw [items, h]
    have has : ∀ type, s.demandAs key type = .error .unloaded := by
      intro type
      rw [demandAs, hdemand]
      rfl
    rw [demandInt_eq, demandBool_eq]
    refine ⟨hdemand, has _, has _, fun T schema start => ⟨?_, ?_⟩⟩
    · simp only [decodeInto, hitems]
    · rw [decoded, hitems]
      rfl

/-- The least integer is padded and has a zero in front; the one beyond the greatest does not
convert. -/
theorem demands_as_decoded_padded :
    let s : Store ⟨Empty, Empty, Empty, Empty⟩ :=
      { path := "/f"
        settings := some (.ofList [("least", "\u00a0 -09223372036854775808\n"),
          ("beyond", "9223372036854775808"), ("blank", "\u2003\t"), ("off", " fAlSe ")]) }
    let fresh : Store ⟨Empty, Empty, Empty, Empty⟩ := { path := "/f" }
    s.isLoaded = true ∧ fresh.isLoaded = false ∧
      s.demandInt "least" = .ok (-9223372036854775808) ∧
      s.demandInt "beyond" = .error (.unconvertible "beyond") ∧
      s.demandInt "blank" = .error (.undefined "blank") ∧
      s.demand "blank" = .error (.undefined "blank") ∧ s.demandBool "off" = .ok false ∧
      fresh.demandInt "least" = .error .unloaded := by
  intro s fresh
  have hloaded : s.isLoaded = true := by decide
  obtain ⟨-, -, -, hleast, -, -, -, -, -⟩ := (demands_as_decoded s "least").1 hloaded
  obtain ⟨-, -, -, -, -, hbeyond, -, -, -⟩ := (demands_as_decoded s "beyond").1 hloaded
  obtain ⟨-, hblank, -, -, hblankInt, -, -, -, -⟩ := (demands_as_decoded s "blank").1 hloaded
  obtain ⟨-, -, -, -, -, -, -, hoff, -⟩ := (demands_as_decoded s "off").1 hloaded
  obtain ⟨-, hfresh, -, -⟩ := (demands_as_decoded fresh "least").2 rfl
  exact ⟨hloaded, rfl, (hleast _).mpr (by decide),
    hbeyond.mpr ⟨"9223372036854775808", by decide⟩, hblankInt.mpr (by decide),
    (hblank _).mpr ⟨rfl, by decide⟩, (hoff _).mpr (by decide), hfresh⟩

end Store

end LiveConfig
