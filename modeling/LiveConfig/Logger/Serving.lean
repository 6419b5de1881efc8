import LiveConfig.Container.Follow
import LiveConfig.Container.Leasing
import LiveConfig.Logger.Basic
import LiveConfig.Notice
import LiveConfig.Teardown.Exit
/-!
A container that serves one logger.

Every change of the settings is taken in place, so the container never makes a second logger. A
record is written through the current logger; a failure to write is noted and otherwise dropped.
-/

set_option autoImplicit false

namespace LiveConfig.Logger

variable {σ : Type}

def construct (part : Focus σ Outside) (c : Config) (w : σ) :
    Outcome String Logger × σ :=
  match make c (part.get w) with
  | .ok (l, o) => (.ok l, part.set o w)
  | .error e => (.error e.message, w)

/-- Takes the difference between two configs in place; the logger stays as it is if it cannot. -/
def resetIn (part : Focus σ Outside) (l : Logger) (old new : Config) (w : σ) :
    Outcome String Unit × Logger × σ :=
  match l.reset old new (part.get w) with
  | .ok (l, o) => (.ok (), l, part.set o w)
  | .error e => (.error e.message, l, w)

/-- The callbacks of a container of loggers in worlds that hold the outputs as a part. -/
def callbacks (part : Focus σ Outside) (fetch : σ → Outcome String Config × σ) :
    Callbacks Logger Config σ where
  fetch := fun _ w => fetch w
  compare := some fun _ old new w => (.ok (old.compare new), w)
  construct := fun _ c w => construct part c w
  reset := some fun _ l old new w => resetIn part l old new w
  close := fun l w => (.ok (), l.close, w)
  spawn := fun _ w => (.ok (), w)

abbrev Serving := Container Logger Config

namespace Serving

def write (c : Serving) (s : Severity) (label message : String) (fields : Json) (o : Outside) :
    Except Panic (Outside × List Notice) :=
  match c.lease? with
  | .error e => .error ⟨c.leasePanic e⟩
  | .ok _ =>
      match c.current.object.write s label message fields o with
      | .ok o => .ok (o, [])
      | .error e => .ok (o, [.writeFailed c.name e.message])

def log (c : Serving) (s : Severity) (message : String) (fields : Json) (o : Outside) :
    Except Panic (Outside × List Notice) :=
  c.write s s.name message fields o

def panic (c : Serving) (message : String) (fields : Json) (o : Outside) :
    Panic × Outside × List Notice :=
  match c.write .error "panic" message fields o with
  | .ok (o, notices) => (⟨message⟩, o, notices)
  | .error p => (p, o, [])

def fatal (c : Serving) (message : String) (fields : Json) (o : Outside) :
    Except Panic (Exit Outside × List Notice) := do
  let (o, notices) ← c.write .error "fatal" message fields o
  .ok (⟨1, "", o⟩, notices)

end Serving

end LiveConfig.Logger
