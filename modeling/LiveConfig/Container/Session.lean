import LiveConfig.Container.Follow
import LiveConfig.Container.Leasing
import LiveConfig.Notice
/-!
Sessions: a container with the world around it and the leases held on it, each under the name of
its owner.

An owner has at most one lease, so leasing again returns the lease held before. Failures to
close objects in the background are noted.
-/

set_option autoImplicit false

namespace LiveConfig

variable {R C σ ρ : Type}

/-- The notice of a failure that no caller hears of. The panic of a thread ends it without one. -/
def Closing.notice? (container : String) : Closing → Option Notice
  | closed generation true (.error e) => some (.closeFailed container generation e)
  | closed .. => none
  | stranded _ e => some (.spawnFailed container e)

def Step.notices (s : Step R C σ ρ) : List Notice :=
  s.closings.filterMap (·.notice? s.container.name)

/-- A container, its world, the generations leased by owners, and the notices so far. -/
structure Session (R C σ : Type) where
  callbacks : Callbacks R C σ
  container : Container R C
  world : σ
  held : List (String × Nat) := []
  notices : List Notice := []

namespace Session

def start (name : String) (cb : Callbacks R C σ) (w : σ) :
    Outcome ContainerError (Session R C σ) × σ :=
  let (built, w) := Container.build name cb w
  (built.map fun c => { callbacks := cb, container := c, world := w }, w)

def take (s : Session R C σ) (step : Step R C σ ρ) : ρ × Session R C σ :=
  (step.result, { s with
    container := step.container
    world := step.world
    notices := s.notices ++ step.notices })

def update (s : Session R C σ) : Outcome ContainerError Decision × Session R C σ :=
  s.take (s.container.update s.callbacks s.world)

def close (s : Session R C σ) : CloseResult × Session R C σ :=
  s.take (s.container.close s.callbacks s.world)

def leased? (s : Session R C σ) (owner : String) : Option (Slot R C) :=
  (s.held.lookup owner).bind s.container.slot?

/-- Returns the lease of an owner, if there is one. -/
def release (s : Session R C σ) (owner : String) : Option (Option CloseResult) × Session R C σ :=
  match s.held.lookup owner with
  | none => (none, s)
  | some generation =>
      let s := { s with held := s.held.filter (·.1 ≠ owner) }
      let (closed, s) := s.take (s.container.giveBack s.callbacks generation s.world)
      (some closed, s)

def lease (s : Session R C σ) (owner : String) : Except ContainerError R × Session R C σ :=
  match s.container.lease? with
  | .error e => (.error e, s)
  | .ok (generation, container) =>
      let object := container.current.object
      let (_, s) := { s with container := container }.release owner
      (.ok object, { s with held := (owner, generation) :: s.held })

def releaseEach : List String → Session R C σ → List (Option CloseResult) × Session R C σ
  | [], s => ([], s)
  | owner :: rest, s =>
      let (closed, s) := s.release owner
      let (later, s) := releaseEach rest s
      (closed.toList ++ later, s)

def releaseAll (s : Session R C σ) : List (Option CloseResult) × Session R C σ :=
  releaseEach ((s.held.map (·.1)).mergeSort fun a b => decide (a ≤ b)) s

end Session

end LiveConfig
