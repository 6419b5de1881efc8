import LiveConfig.Change.Basic
import LiveConfig.FileTree
/-!
What others do to files, and the events by which the directories tell of it.

Every event is told by the directories that hold the names it carries. A directory that holds only
one of the two names of a rename tells of that one alone.
-/

set_option autoImplicit false

namespace LiveConfig

/-- Something done to a file by its path. -/
inductive FileAction where
  | write (path : String) (bytes : ByteArray)
  | rename (source target : String)
  | remove (path : String)
  | touch (path : String)

/-- An event with the absolute names it is about. -/
structure DirectoryEvent where
  kind : RawKind
  names : List (List String)
deriving DecidableEq, Repr

namespace FileAction

def writeEvents (isNew : Bool) (bytes : ByteArray) (name : List String) : List DirectoryEvent :=
  let opened : RawKind := if isNew then .create else .content
  let written : List RawKind := if bytes.isEmpty then [] else [.content]
  ([opened, RawKind.access] ++ written ++ [RawKind.access]).map (⟨·, [name]⟩)

/-- The events of giving one name in place of another; none if they are the same. -/
def renameEvents (old new : List String) : List DirectoryEvent :=
  if old = new then []
  else [⟨.rename .source, [old]⟩, ⟨.rename .target, [new]⟩, ⟨.rename .both, [old, new]⟩]

/-- Does what the action says: the tree afterwards, and the events in order. -/
def apply (t : FileTree) : FileAction → Except FileFault (FileTree × List DirectoryEvent)
  | write path bytes => do
      let spot ← t.locate path
      let isNew := (t.node? spot.absolute).isNone
      .ok (← t.write path bytes, writeEvents isNew bytes spot.absolute)
  | rename source target => do
      let old ← t.locate source
      let new ← t.locate target
      .ok (← t.rename source target, renameEvents old.absolute new.absolute)
  | remove path => do
      let spot ← t.locate path
      .ok (← t.remove path, [⟨.remove, [spot.absolute]⟩])
  | touch path => do
      let spot ← t.locate path
      let _ ← t.find path
      .ok (t, [⟨.metadata, [spot.absolute]⟩])

/-- Does what the actions say in order, up to one that fails: why it fails, the tree then, and the
events until then. -/
def applyAll (t : FileTree) : List FileAction → Option FileFault × FileTree × List DirectoryEvent
  | [] => (none, t, [])
  | action :: rest =>
      match action.apply t with
      | .error fault => (some fault, t, [])
      | .ok (t, events) =>
          let (fault, t, later) := applyAll t rest
          (fault, t, events ++ later)

def replace (path : String) (bytes : ByteArray) : List FileAction :=
  let staged := Path.sibling path "staged.tmp"
  [.write staged bytes, .rename staged path]

end FileAction

end LiveConfig
