import LiveConfig.EnvText.Entry
import LiveConfig.Settings
/-!
Env text: settings as lines `KEY=VALUE`.

Entries are read in order, and a later entry of a key replaces an earlier one. A name in a value
stands for the variable of the process environment, else for the entry read before, else for
nothing. The first line that is no entry ends the reading.

The environment is searched as a list of texts `NAME=VALUE`, each of which may be taken apart at
any of its equals signs: with the variable `A` set to `B=C`, the name `A=B` stands for `C`.
-/

set_option autoImplicit false

namespace LiveConfig.EnvText

abbrev Environment := String → Option String

inductive Fault where
  | line (fault : LineFault)
  /-- A line is no UTF-8. -/
  | encoding
deriving DecidableEq, Repr

def LineFault.message (f : LineFault) : String :=
  "Error parsing line: '" ++ f.line ++ "', error at line index: " ++ toString f.index

def Fault.message : Fault → String
  | .line f => f.message
  | .encoding => "stream did not contain valid UTF-8"

/-- What the environment holds under a name; the part of the name from its first equals sign on
stands in the value of a variable. No text is held under a name that is empty or has a NUL. -/
def Environment.search? (env : Environment) (name : String) : Option String :=
  let l := name.toList
  let key := l.takeWhile (· ≠ '=')
  if key = [] ∨ Char.ofNat 0 ∈ l then none
  else
    match l.dropWhile (· ≠ '=') with
    | [] => env name
    | _ :: start => do
        let value ← env (String.ofList key)
        return String.ofList (← (start ++ ['=']).isPrefixOf? value.toList)

def resolve (env : Environment) (known : Settings) (name : String) : String :=
  match env.search? name with
  | some value => value
  | none => (known.get? name).getD ""

/-- Adds one logical line to the settings read before it. -/
def readLine (env : Environment) (known : Settings) : LogicalLine → Except Fault Settings
  | .done text =>
      match readEntry (resolve env known) text with
      | .ok none => .ok known
      | .ok (some (key, value)) => .ok (known.insert key value)
      | .error fault => .error (.line fault)
  | .unfinished text => .error (.line ⟨String.ofList text, byteLength text⟩)
  | .unreadable => .error .encoding

def Source.settings (env : Environment) (s : Source) : Except Fault Settings :=
  s.logicalLines.foldlM (readLine env) ∅

def parse (env : Environment) (text : String) : Except Fault Settings :=
  (Source.ofText text).settings env

def parseBytes (env : Environment) (content : ByteArray) : Except Fault Settings :=
  (Source.ofBytes content).settings env

end LiveConfig.EnvText
