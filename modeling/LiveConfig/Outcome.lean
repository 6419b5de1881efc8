/-!
How a call to code supplied from outside ends: with a value, with an error, or with a panic that
unwinds its callers. And the part of a world that such a call acts on.
-/

set_option autoImplicit false

namespace LiveConfig

structure Panic where
  message : String
deriving DecidableEq, Repr

inductive Outcome (ε α : Type) where
  | ok (value : α)
  | error (e : ε)
  | panic (message : String)
deriving DecidableEq, Repr

namespace Outcome

variable {ε ε' α β : Type}

def map (f : α → β) : Outcome ε α → Outcome ε β
  | ok a => ok (f a)
  | error e => error e
  | panic m => panic m

def mapError (f : ε → ε') : Outcome ε α → Outcome ε' α
  | ok a => ok a
  | error e => error (f e)
  | panic m => panic m

def ofExcept : Except ε α → Outcome ε α
  | .ok a => ok a
  | .error e => error e

end Outcome

/-- A part of type `τ` in worlds of type `σ`. -/
structure Focus (σ τ : Type) where
  get : σ → τ
  set : τ → σ → σ

namespace Focus

def whole (σ : Type) : Focus σ σ := ⟨id, fun s _ => s⟩

structure Lawful {σ τ : Type} (part : Focus σ τ) : Prop where
  get_set : ∀ t s, part.get (part.set t s) = t

theorem lawful_whole (σ : Type) : (whole σ).Lawful := ⟨fun _ _ => rfl⟩

end Focus

end LiveConfig
