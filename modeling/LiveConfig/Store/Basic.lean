import LiveConfig.Change.FileWatch
import LiveConfig.LoadError
import LiveConfig.Notice
import LiveConfig.Outcome
import LiveConfig.Text.Summary
/-!
Stores: settings bound to one file, with what is registered to run after a reload.

What is registered is named by codes. A *vocabulary* gives the types of the codes, and a host gives
their meaning over a world, which consists of the store and everything outside of it. So the code
of a hook may stand in the store that the hook itself changes.
-/

set_option autoImplicit false

namespace LiveConfig

/-- Why an operation of a store fails. -/
inductive StoreError where
  | notLoaded
  | alreadyWatching
  | path (given : String)
  | load (e : LoadError)
  | watch (e : WatchError)
  /-- A failure that a running watch reports. -/
  | watching (e : WatchError)
  | update (name reason : String)
deriving DecidableEq, Repr

def StoreError.message : StoreError → String
  | notLoaded => "config content is not loaded"
  | alreadyWatching => "repeatedly watching"
  | path given => "resolve path " ++ given ++ ": cannot make an empty path absolute"
  | load e => "load config: " ++ e.message
  | watch e => "start watch: " ++ e.message
  | watching e => "watch file: " ++ e.message
  | update name reason => "update " ++ name ++ ": " ++ reason

/-- The codes of what can be registered with a store. -/
structure Vocabulary where
  /-- Revisions of freshly read settings. -/
  Revision : Type
  /-- Hooks that run before or after the updaters. -/
  Hook : Type
  Updater : Type
  /-- Handlers of errors. -/
  Handler : Type

/-- What is registered with a store, in the order of registration. -/
structure Registry (V : Vocabulary) where
  revision : Option V.Revision := none
  before : List V.Hook := []
  updaters : List V.Updater := []
  after : List V.Hook := []
  handler : Option V.Handler := none

/-- Settings bound to the file at an absolute path; before the first load there are none. -/
structure Store (V : Vocabulary) where
  path : String
  settings : Option Settings := none
  registry : Registry V := {}
  watch : Option Watch := none

/-- A store and everything outside of it. -/
structure World (V : Vocabulary) (σ : Type) where
  store : Store V
  outside : σ

/-- What loading needs: the bytes of a file as they are in a world, the process environment, and
what revisions make of settings and of the world. -/
structure Loader (V : Vocabulary) (σ : Type) where
  read : σ → String → Except FileFault ByteArray
  environment : EnvText.Environment
  revise : V.Revision → Settings → World V σ → Except Panic Settings × World V σ

/-- What the codes of a vocabulary mean in a world. -/
structure Host (V : Vocabulary) (σ : Type) extends Loader V σ where
  hook : V.Hook → World V σ → Except Panic Unit × World V σ
  update : V.Updater → World V σ → Outcome String Unit × World V σ
  nameOf : V.Updater → World V σ → String
  handle : V.Handler → StoreError → World V σ → Except Panic Unit × World V σ
  /-- Takes a notice that nobody handles. -/
  note : Notice → World V σ → World V σ

namespace Store

variable {V : Vocabulary}

/-- A store bound to a path, which is made absolute. -/
def bind? (cwd path : String) : Except StoreError (Store V) :=
  match Path.absolute? cwd path with
  | some path => .ok { path }
  | none => .error (.path path)

def isLoaded (s : Store V) : Bool := s.settings.isSome

def isWatching (s : Store V) : Bool := s.watch.isSome

def setRevision (s : Store V) (r : V.Revision) : Store V :=
  { s with registry := { s.registry with revision := some r } }

def addEarlyHook (s : Store V) (h : V.Hook) : Store V :=
  { s with registry := { s.registry with before := s.registry.before ++ [h] } }

def addLateHook (s : Store V) (h : V.Hook) : Store V :=
  { s with registry := { s.registry with after := s.registry.after ++ [h] } }

def addUpdater (s : Store V) (u : V.Updater) : Store V :=
  { s with registry := { s.registry with updaters := s.registry.updaters ++ [u] } }

def setHandler (s : Store V) (h : V.Handler) : Store V :=
  { s with registry := { s.registry with handler := some h } }

def summary (s : Store V) : String :=
  Text.summary "Conf"
    [("path", Text.quote s.path), ("loaded", Text.ofBool s.isLoaded),
      ("updaters", toString s.registry.updaters.length), ("watching", Text.ofBool s.isWatching)]
    true

end Store

end LiveConfig
