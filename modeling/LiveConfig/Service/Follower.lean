import LiveConfig.Container.Session
import LiveConfig.Numeral.Size
import LiveConfig.Service.Basic
import LiveConfig.Store.Read
/-!
Containers that follow the store of a service: each fetches its config from the store.
-/

set_option autoImplicit false

namespace LiveConfig.Service

/-- The callbacks of a pool of the size that a key gives; it takes every change in place. -/
def poolCallbacks (key : String) : Callbacks Nat Nat Service where
  fetch := fun _ s =>
    match s.store.get key with
    | .error e => (.error e.message, s)
    | .ok v => (Outcome.ofExcept ((Numeral.readSize (v.getD "")).mapError (·.message)), s)
  compare := some fun _ old new s => (.ok (if old = new then .keep else .reset), s)
  construct := fun _ size s => (.ok size, s)
  reset := some fun _ _ _ new s => (.ok (), new, s)
  close := fun size s => (.ok (), size, s)
  spawn := fun _ s => (.ok (), s)

def fetch {T : Type} (schema : Schema T) (start : T) (s : Service) : Outcome String T × Service :=
  (Outcome.ofExcept ((s.store.decoded schema start).mapError StoreError.message), s)

def loggerCallbacks (keyPrefix : String) : Callbacks Logger Logger.Config Service :=
  Logger.callbacks streams (fetch (Logger.Config.schema keyPrefix) {})

def clientCallbacks (keyPrefix : String) : Callbacks Http.Client Http.Config Service :=
  Http.callbacks (fetch (Http.Config.schema keyPrefix) {})

namespace Follower

def name : Follower → String
  | pool _ c => c.name
  | logger _ c => c.name
  | client _ c => c.name

def summary : Follower → String
  | pool _ c => c.summary toString
  | logger _ c => c.summary Logger.Config.summary
  | client _ c => c.summary Http.Config.summary

end Follower

private def settle {R C ρ : Type} (place : Nat) (wrap : Container R C → Follower)
    (step : Step R C Service ρ) : ρ × Service :=
  let s := step.world
  let followers := s.outside.followers.set place (wrap step.container)
  (step.result, (s.setOutside { s.outside with followers := followers }).note step.notices)

def updateFollower (place : Nat) (f : Follower) (s : Service) :
    Outcome ContainerError Decision × Service :=
  match f with
  | .pool key c => settle place (.pool key) (c.update (poolCallbacks key) s)
  | .logger p c => settle place (.logger p) (c.update (loggerCallbacks p) s)
  | .client p c => settle place (.client p) (c.update (clientCallbacks p) s)

def closeFollower (place : Nat) (f : Follower) (s : Service) : CloseResult × Service :=
  match f with
  | .pool key c => settle place (.pool key) (c.close (poolCallbacks key) s)
  | .logger p c => settle place (.logger p) (c.close (loggerCallbacks p) s)
  | .client p c => settle place (.client p) (c.close (clientCallbacks p) s)

/-- What a new follower is to be. -/
inductive FollowerKind where
  | pool (key : String)
  | logger (keyPrefix : String)
  | client (keyPrefix : String)
deriving DecidableEq, Repr

private def wrapped {R C : Type} (wrap : Container R C → Follower)
    (built : Outcome ContainerError (Container R C) × Service) :
    Outcome ContainerError Follower × Service :=
  (built.1.map wrap, built.2)

def build (name : String) (kind : FollowerKind) (s : Service) :
    Outcome ContainerError Follower × Service :=
  match kind with
  | .pool key => wrapped (.pool key) (Container.build name (poolCallbacks key) s)
  | .logger p => wrapped (.logger p) (Container.build name (loggerCallbacks p) s)
  | .client p => wrapped (.client p) (Container.build name (clientCallbacks p) s)

/-- Builds a follower, adds it, and registers it with the store if it is to be pushed. -/
def addFollower (name : String) (kind : FollowerKind) (pushed : Bool) (s : Service) :
    Outcome ContainerError Unit × Service :=
  match build name kind s with
  | (.error e, s) => (.error e, s)
  | (.panic m, s) => (.panic m, s)
  | (.ok f, s) =>
      let place := s.outside.followers.length
      let s : Service := s.setOutside { s.outside with followers := s.outside.followers ++ [f] }
      (.ok (), if pushed then s.setStore (s.store.addUpdater (.follower place)) else s)

def follower? (s : Service) (name : String) : Option (Nat × Follower) :=
  (s.outside.followers.zipIdx.reverse.find? (·.1.name = name)).map fun e => (e.2, e.1)

def log (c : Logger.Serving) (severity : Logger.Severity) (message : String) (fields : Json)
    (s : Service) : Except Panic Unit × Service :=
  match c.log severity message fields s.outside.streams with
  | .error p => (.error p, s)
  | .ok (o, notices) => (.ok (), Service.note (streams.set o s) notices)

end LiveConfig.Service
