import LiveConfig.Numeral.Integer
import LiveConfig.Settings
import LiveConfig.Text.Blank
import LiveConfig.Text.Summary
/-!
Schemas: which keys a value is made from, and how.

A schema is a list of typed fields. Decoding goes through the fields in order, on trimmed texts; a
blank text counts as missing. It stops at the first required field that is missing or the first
text that does not convert, and what was set before stays set.
-/

set_option autoImplicit false

namespace LiveConfig

inductive FieldType where
  | bool
  | text
  | int (t : IntType)
deriving DecidableEq, Repr

namespace FieldType

abbrev Value : FieldType → Type
  | bool => Bool
  | text => String
  | int _ => Int

def name : FieldType → String
  | bool => "bool"
  | text => "string"
  | int t => t.name

def all : List FieldType := bool :: text :: IntType.all.map int

def ofName? (name : String) : Option FieldType := all.find? (·.name = name)

/-- A switch is off when its text is empty, zero or `false` in any case, and on otherwise. -/
def readBool (s : String) : Bool :=
  !(s.isEmpty || s == "0" || Text.equalsIgnoringCase s "false")

def read? : (t : FieldType) → String → Option t.Value
  | bool, s => some (readBool s)
  | text, s => some s
  | int t, s => Numeral.readInt? t s

def render : (t : FieldType) → t.Value → String
  | bool, b => if b then "true" else "false"
  | text, s => s
  | int _, n => toString n

end FieldType

inductive DecodeError where
  | missing (key : String)
  | invalid (key value : String) (type : FieldType)
deriving DecidableEq, Repr

def DecodeError.message : DecodeError → String
  | .missing key => "field " ++ key ++ " is not present in source"
  | .invalid key value type =>
      "field " ++ key ++ ": cannot convert " ++ Text.quote value ++ " to " ++ type.name

/-- One field of a target: its key, its type, and how a value is set. -/
structure Field (T : Type) where
  key : String
  type : FieldType
  required : Bool
  set : type.Value → T → T

/-- The fields of a target in the order of declaration. -/
structure Schema (T : Type) where
  fields : List (Field T) := []

namespace Schema

variable {T : Type}

def empty : Schema T := ⟨[]⟩

def required (s : Schema T) (key : String) (type : FieldType) (set : type.Value → T → T) :
    Schema T :=
  ⟨s.fields ++ [⟨key, type, true, set⟩]⟩

def optional (s : Schema T) (key : String) (type : FieldType) (set : type.Value → T → T) :
    Schema T :=
  ⟨s.fields ++ [⟨key, type, false, set⟩]⟩

def keys (s : Schema T) : List String := s.fields.map (·.key)

end Schema

/-- The trimmed text of a key, unless the key is absent or its text blank. -/
def Settings.present? (m : Settings) (key : String) : Option String :=
  (m.get? key).bind fun raw => if Text.blank raw then none else some (Text.trim raw)

def Field.decode {T : Type} (f : Field T) (m : Settings) (target : T) : Except DecodeError T :=
  match m.present? f.key with
  | none => if f.required then .error (.missing f.key) else .ok target
  | some raw =>
      match f.type.read? raw with
      | none => .error (.invalid f.key raw f.type)
      | some value => .ok (f.set value target)

/-- Decodes fields in order: the target as it was set, and the error that stopped it. -/
def decodeFields {T : Type} (m : Settings) : List (Field T) → T → T × Option DecodeError
  | [], target => (target, none)
  | f :: fields, target =>
      match f.decode m target with
      | .error e => (target, some e)
      | .ok target => decodeFields m fields target

def Schema.decode {T : Type} (s : Schema T) (m : Settings) (target : T) : T × Option DecodeError :=
  decodeFields m s.fields target

/-- The target decoded over `start`, if nothing stops it. -/
def Schema.decoded {T : Type} (s : Schema T) (m : Settings) (start : T) : Except DecodeError T :=
  match s.decode m start with
  | (target, none) => .ok target
  | (_, some e) => .error e

end LiveConfig
