import LiveConfig.Text.Path
/-!
Changes of a file, and the raw events of its directory that tell of them.

A raw event names one or more paths. What it says about the path at an index depends on its kind:
a rename removes the name it starts from and creates the name it ends at, and neither metadata nor
access changes a file.
-/

set_option autoImplicit false

namespace LiveConfig

inductive ChangeKind where
  | create | modify | remove
deriving DecidableEq, Repr

/-- Which names of a rename an event carries. -/
inductive RenameSide where
  | source | target | both | unspecified
deriving DecidableEq, Repr

/-- What happened to the paths of a raw event. -/
inductive RawKind where
  | unspecified
  | access
  | create
  | remove
  | content
  | metadata
  | rename (side : RenameSide)
deriving DecidableEq, Repr

/-- An event as the directory reports it. -/
structure RawEvent where
  kind : RawKind
  paths : List String
deriving DecidableEq, Repr

/-- A change of the file at a path. -/
structure Change where
  path : String
  kind : ChangeKind
deriving DecidableEq, Repr

/-- What a raw event of this kind says about the path at an index. -/
def RawKind.changeAt (kind : RawKind) (index : Nat) : Option ChangeKind :=
  match kind with
  | create => some .create
  | remove => some .remove
  | content | rename .unspecified => some .modify
  | rename .source => some .remove
  | rename .target => some .create
  | rename .both => some (if index = 0 then .remove else .create)
  | unspecified | access | metadata => none

/-- The change of the file `name` that a raw event tells of with the path at an index. -/
def RawEvent.changeOf? (e : RawEvent) (name : String) (entry : String × Nat) : Option Change :=
  if Path.fileName? entry.1 = some name then (e.kind.changeAt entry.2).map (⟨entry.1, ·⟩)
  else none

/-- The changes of the file `name` that a raw event tells of, in the order of its paths. -/
def RawEvent.changes (e : RawEvent) (name : String) : List Change :=
  e.paths.zipIdx.filterMap (e.changeOf? name)

end LiveConfig
