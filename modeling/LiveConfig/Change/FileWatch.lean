import LiveConfig.Change.Debounce
import LiveConfig.Change.FileAction
import LiveConfig.Text.Summary
/-!
Watching one file through the directory that holds it.

The directory is watched under the path it was given, made absolute by putting the working
directory in front and nothing else, and events carry that path with the file's name behind it.
A file that is replaced by a rename is therefore still the watched one.
-/

set_option autoImplicit false

namespace LiveConfig

inductive WatchError where
  | noRuntime
  | notFile (path : String)
  | noDirectory (path : String)
  | source (message : String)
deriving DecidableEq, Repr

def WatchError.message : WatchError → String
  | noRuntime => "watcher must be started inside a tokio runtime"
  | notFile path => "invalid configuration: not a file path: " ++ Text.quote path
  | noDirectory path => "invalid configuration: directory does not exist: " ++ Text.quote path
  | source message => "notify error: " ++ message

structure Watch where
  /-- The path as it was given. -/
  path : String
  /-- The last component of the path. -/
  fileName : String
  /-- The path under which the directory is watched. -/
  directory : String
  /-- The absolute name of the directory. -/
  place : List String
  debounce : Debounce
  pending : Option Pending := none

namespace Watch

/-- The directory of a path, which is the working directory if none is named. -/
def directoryOf (path : String) : String :=
  match Path.parent? path with
  | some parent => if parent = "" then "." else parent
  | none => "."

/-- Starts to watch the file at a path. Events are taken by a task, so there has to be a runtime
to run it. -/
def start (hasRuntime : Bool) (t : FileTree) (path : String) (debounce : Debounce) :
    Except WatchError Watch :=
  if !hasRuntime then .error .noRuntime
  else
    match Path.fileName? path with
    | none => .error (.notFile path)
    | some fileName =>
        let dir := directoryOf path
        match t.isDirectory dir, t.locate dir with
        | true, .ok spot =>
            let directory :=
              if Path.isAbsolute dir then dir else Path.join ("/" ++ "/".intercalate t.cwd) dir
            .ok { path, fileName, directory, place := spot.absolute, debounce }
        | _, _ => .error (.noDirectory dir)

/-- The raw event by which the watched directory tells of an event, if it holds a name of it. -/
def rawEvent? (w : Watch) (e : DirectoryEvent) : Option RawEvent :=
  let held := e.names.filter fun name => name ≠ [] ∧ name.dropLast = w.place
  if held.length = e.names.length then
    some ⟨e.kind, held.map fun name => Path.join w.directory (name.getLast?.getD "")⟩
  else none

/-- Takes inputs with their times: the watch afterwards, and what it sends. -/
def receive (w : Watch) (inputs : List (Nat × WatchInput)) : Watch × List WatchOutput :=
  let (pending, sent) := w.debounce.run w.fileName w.pending inputs
  ({ w with pending }, sent)

/-- The inputs of events that come at one time, and of the tick that ends their burst. -/
def burst (w : Watch) (events : List DirectoryEvent) : List (Nat × WatchInput) :=
  (events.filterMap w.rawEvent?).map (fun e => (0, .raw e)) ++ [(w.debounce.quiet, .tick)]

end Watch

end LiveConfig
