import LiveConfig.Store.Basic
/-!
Reading settings from a store.

Every read sees the settings of the latest successful load. The reads for keys that must be there
panic instead of failing.
-/

set_option autoImplicit false

namespace LiveConfig.Store

variable {V : Vocabulary}

def items (s : Store V) : Except StoreError Settings :=
  match s.settings with
  | some m => .ok m
  | none => .error .notLoaded

def get (s : Store V) (key : String) : Except StoreError (Option String) :=
  s.items.map (·.get? key)

def keys (s : Store V) : Except StoreError (List String) := s.items.map Settings.keys

def decoded {T : Type} (s : Store V) (schema : Schema T) (start : T) : Except StoreError T := do
  match schema.decoded (← s.items) start with
  | .ok target => .ok target
  | .error e => .error (.load (.decode e))

/-- Decodes into a target, which keeps what was set before a failure. -/
def decodeInto {T : Type} (s : Store V) (schema : Schema T) (target : T) : T × Option StoreError :=
  match s.items with
  | .error e => (target, some e)
  | .ok m =>
      let (target, failure) := schema.decode m target
      (target, failure.map fun e => .load (.decode e))

/-- The text of a key that must be there and not be blank. -/
def demand (s : Store V) (key : String) : Except Panic String :=
  match s.settings with
  | none => .error ⟨"config unloaded"⟩
  | some m =>
      match m.get? key with
      | some value =>
          if Text.blank value then .error ⟨"config " ++ key ++ " undefined"⟩ else .ok value
      | none => .error ⟨"config " ++ key ++ " undefined"⟩

def demandInt (s : Store V) (key : String) : Except Panic Int := do
  match Numeral.readInt? ⟨true, .w64⟩ (Text.trim (← s.demand key)) with
  | some n => .ok n
  | none => .error ⟨"config " ++ key ++ " convert to int failed"⟩

def demandBool (s : Store V) (key : String) : Except Panic Bool := do
  .ok (FieldType.readBool (Text.trim (← s.demand key)))

end LiveConfig.Store
