import LiveConfig.Numeral.Integer
import LiveConfig.Text.Blank
/-!
Severities of records, and the levels that filter them.

A level passes the severities up to its own. Its text is a name without regard to case, or its
number from 0 for `off` to 5 for `trace`; the empty text means `error`.
-/

set_option autoImplicit false

namespace LiveConfig.Logger

inductive Severity where
  | error | warn | info | debug | trace
deriving DecidableEq, Repr

namespace Severity

def rank : Severity → Nat
  | error => 1
  | warn => 2
  | info => 3
  | debug => 4
  | trace => 5

def name : Severity → String
  | error => "error"
  | warn => "warn"
  | info => "info"
  | debug => "debug"
  | trace => "trace"

def all : List Severity := [error, warn, info, debug, trace]

def ofName? (name : String) : Option Severity := all.find? (·.name = name)

end Severity

/-- What a logger lets through: nothing, or severities up to one. -/
inductive Level where
  | off
  | upTo (s : Severity)
deriving DecidableEq, Repr

namespace Level

def rank : Level → Nat
  | off => 0
  | upTo s => s.rank

def name : Level → String
  | off => "off"
  | upTo s => s.name

def passes (l : Level) (s : Severity) : Bool := s.rank ≤ l.rank

def all : List Level := off :: Severity.all.map upTo

def ofName? (s : String) : Option Level :=
  if s = "" then some (upTo .error) else all.find? fun l => Text.equalsIgnoringCase s l.name

/-- The level of a text without blanks around it. -/
def read? (s : String) : Option Level :=
  match (Numeral.readInt? ⟨false, .size⟩ s).bind fun n => all[n.toNat]? with
  | some l => some l
  | none => ofName? s

def ofText? (s : String) : Option Level := read? (Text.trim s)

example : ofText? " +03\n" = some (upTo .info) := by decide
example : ofText? "6" = none := by decide

end Level

end LiveConfig.Logger
