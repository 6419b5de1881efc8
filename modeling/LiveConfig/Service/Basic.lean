import LiveConfig.Http.Serving
import LiveConfig.Logger.Serving
import LiveConfig.Store.Watching
/-!
A service: one store, the containers that follow it, and what is registered with the store.

What hooks, updaters and handlers do is written as data, and what they did is kept as a list of
events. A container that follows the store is named by its place among the followers, so an
updater goes on meaning the same container whatever names are taken later.
-/

set_option autoImplicit false

namespace LiveConfig

namespace Service

/-- The address of a server, and whether it says more than usual. -/
structure Server where
  host : String := ""
  port : Int := 0
  debug : Bool := false
deriving DecidableEq, Repr

namespace Server

def schema : Schema Server :=
  (Schema.empty.required "SERVER_HOST" .text fun v (s : Server) => { s with host := v })
    |>.required "SERVER_PORT" (.int ⟨false, .w16⟩) (fun v s => { s with port := v })
    |>.optional "SERVER_DEBUG" .bool fun v s => { s with debug := v }

def summary (s : Server) : String :=
  Text.summary "Server"
    [("host", Text.quote s.host), ("port", toString s.port), ("debug", Text.ofBool s.debug)] false

end Server

inductive Revision where
  /-- Values with the mark `enc:` are revealed. -/
  | reveal
  | set (key value : String)
  | drop (key : String)
  | clear
deriving DecidableEq, Repr

inductive Reaction where
  /-- Looks at a key, and loads the store again if asked to. -/
  | look (tag key : String) (loads : Bool)
  /-- Panics with the value of a key that is there. -/
  | panicOn (key : String)
deriving DecidableEq, Repr

/-- What an updater does, besides telling that it ran. -/
inductive Job where
  | nothing
  | fail (message : String)
  | read (key : String)
  | decode
  /-- Writes the file of the store and loads it. -/
  | load (text : String)
  /-- Registers another updater. -/
  | push (tag : String)
deriving DecidableEq, Repr

/-- An updater: a job, or a container that follows the store. -/
inductive Updater where
  | job (tag name : String) (job : Job)
  | follower (place : Nat)
deriving DecidableEq, Repr

/-- The codes of a service; a handler of errors is known by its tag. -/
abbrev vocabulary : Vocabulary := ⟨Revision, Reaction, Updater, String⟩

/-- What happened while hooks, updaters and handlers ran. -/
inductive Event where
  | looked (tag : String) (value : Option String)
  | loaded (succeeded : Bool)
  | updated (tag : String)
  | read (value : Option String)
  | decoded (server : Server)
  | failed (tag : String) (e : StoreError)

inductive Follower where
  /-- A pool, which holds as many entries as the value of a key says. -/
  | pool (key : String) (container : Container Nat Nat)
  | logger (keyPrefix : String) (container : Logger.Serving)
  | client (keyPrefix : String) (container : Http.Serving)

/-- What lies around the store of a service. -/
structure Outside where
  streams : Logger.Outside
  followers : List Follower := []
  events : List Event := []
  notices : List Notice := []

end Service

abbrev Service := World Service.vocabulary Service.Outside

namespace Service

def files (s : Service) : FileTree := s.outside.streams.files

def setOutside (s : Service) (o : Outside) : Service := { s with outside := o }

def setStore (s : Service) (store : Store vocabulary) : Service := { s with store := store }

def streams : Focus Service Logger.Outside :=
  ⟨fun s => s.outside.streams, fun o s => s.setOutside { s.outside with streams := o }⟩

def setFiles (s : Service) (t : FileTree) : Service :=
  streams.set { s.outside.streams with files := t } s

/-- Replaces the content of a file, if it can be written. -/
def writeFile (s : Service) (path : String) (bytes : ByteArray) : Service :=
  s.setFiles ((s.files.write path bytes).toOption.getD s.files)

def tell (s : Service) (e : Event) : Service :=
  s.setOutside { s.outside with events := s.outside.events ++ [e] }

def note (s : Service) (l : List Notice) : Service :=
  s.setOutside { s.outside with notices := s.outside.notices ++ l }

def quiet (s : Service) : Service := s.setOutside { s.outside with events := [], notices := [] }

end Service

end LiveConfig
