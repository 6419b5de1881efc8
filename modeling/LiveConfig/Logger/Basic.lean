import LiveConfig.Container.Basic
import LiveConfig.FileTree
import LiveConfig.Json.Printer
import LiveConfig.Logger.Level
import LiveConfig.Schema
import LiveConfig.Text.Summary
/-!
Loggers: a level and an open output.

A record is one JSON object on one line. Time, label and message come first. The members of the
fields follow, if the fields are an object; they are plain, and nothing is done about a field that
bears the name of one of the first three.

Files are opened for appending, and a logger that opened one goes on writing to it whatever
becomes of its name. A change of the settings is prepared as a whole before any of it is applied,
so one that fails leaves the logger as it was. A closed logger drops what it is given.
-/

set_option autoImplicit false

namespace LiveConfig

namespace Logger

/-! ### Settings -/

structure Config where
  /-- The name of a level, or `off`. -/
  level : String := ""
  /-- `stdout`, `stderr`, or the path of a file. -/
  output : String := ""
deriving DecidableEq, Repr, Inhabited

namespace Config

def schema (keyPrefix : String) : Schema Config :=
  (Schema.empty.required (keyPrefix ++ "_LOG_LEVEL") .text fun v c => { c with level := v })
    |>.required (keyPrefix ++ "_LOG_OUTPUT") .text fun v c => { c with output := v }

def summary (c : Config) : String :=
  Text.summary "LoggerConfig"
    [("level", Text.quote c.level), ("output", Text.quote c.output)] false

def compare (old new : Config) : Decision := if old = new then .keep else .reset

end Config

/-! ### Records -/

/-- What is said in one call, with the label it is written under and the time of writing. -/
structure Record where
  time : String
  label : String
  message : String
  fields : Json

namespace Record

def fixed (r : Record) : List (String × Json) :=
  [("time", .text r.time), ("level", .text r.label), ("msg", .text r.message)]

def toJson (r : Record) : Json := .record (r.fixed ++ (r.fields.plain.members?.getD []))

def line (r : Record) : String := r.toJson.compact ++ "\n"

end Record

/-! ### Loggers -/

inductive Output where
  | stdout
  | stderr
  | file (node : Node)
  | closed
deriving DecidableEq, Repr

/-- What loggers write to, and the clock that they look at. -/
structure Outside where
  files : FileTree
  stdout : String := ""
  stderr : String := ""
  time : String

end Logger

/-- A logger: what it lets through, and where it writes. -/
structure Logger where
  level : Logger.Level
  output : Logger.Output
deriving DecidableEq, Repr

/-- Why an operation of a logger fails. -/
inductive LoggerError where
  | level (text : String)
  | output (path : String) (fault : FileFault)
  | write (reason : String)
deriving DecidableEq, Repr

private def levelReason : String :=
  "error parsing level filter: expected one of \"off\", \"error\", \"warn\", \"info\", \"debug\", "
    ++ "\"trace\", or a number 0-5"

def LoggerError.message : LoggerError → String
  | level text => "parse level " ++ Text.quote text ++ ": " ++ levelReason
  | output path fault => "open log file " ++ path ++ ": " ++ fault.message
  | write reason => "write log record: " ++ reason

namespace Logger

def readLevel (text : String) : Except LoggerError Level :=
  match Level.ofText? text with
  | some level => .ok level
  | none => .error (.level text)

def Outside.open (o : Outside) (name : String) : Except LoggerError (Output × Outside) :=
  if Text.equalsIgnoringCase name "stdout" then .ok (.stdout, o)
  else if Text.equalsIgnoringCase name "stderr" then .ok (.stderr, o)
  else
    match o.files.openForWriting name with
    | .ok (node, files) => .ok (.file node, { o with files })
    | .error fault => .error (.output name fault)

def Outside.write (o : Outside) (line : String) : Output → Except FileFault Outside
  | .stdout => .ok { o with stdout := o.stdout ++ line }
  | .stderr => .ok { o with stderr := o.stderr ++ line }
  | .file node => do
      let files ← o.files.append node line.toUTF8
      .ok { o with files }
  | .closed => .ok o

def make (c : Config) (o : Outside) : Except LoggerError (Logger × Outside) := do
  let level ← readLevel c.level
  let (output, o) ← o.open c.output
  .ok (⟨level, output⟩, o)

def setLevel (l : Logger) (text : String) : Except LoggerError Logger := do
  .ok { l with level := ← readLevel text }

def setOutput (l : Logger) (name : String) (o : Outside) :
    Except LoggerError (Logger × Outside) := do
  let (output, o) ← o.open name
  .ok ({ l with output }, o)

def enabled (l : Logger) (s : Severity) : Bool := l.level.passes s

/-- Writes a record under a label, if its severity is let through. -/
def write (l : Logger) (s : Severity) (label message : String) (fields : Json) (o : Outside) :
    Except LoggerError Outside :=
  if l.enabled s then
    match o.write (Record.line ⟨o.time, label, message, fields⟩) l.output with
    | .ok o => .ok o
    | .error fault => .error (.write fault.message)
  else .ok o

def log (l : Logger) (s : Severity) (message : String) (fields : Json) (o : Outside) :
    Except LoggerError Outside :=
  l.write s s.name message fields o

def reset (l : Logger) (old new : Config) (o : Outside) :
    Except LoggerError (Logger × Outside) := do
  let level ← if old.level = new.level then .ok l.level else readLevel new.level
  let (output, o) ← if old.output = new.output then .ok (l.output, o) else o.open new.output
  .ok (⟨level, output⟩, o)

def close (l : Logger) : Logger := { l with output := .closed }

end Logger

end LiveConfig
