import LiveConfig.Change.Basic
/-!
Debouncing: a burst of changes of one file becomes one change.

The first change of a burst gives the path. Writing to a file that was created or removed in the
same burst adds nothing, and any other kind takes the place of the one before. A burst ends with
the first clock tick that finds it quiet for long enough; its change is then sent, unless nobody
listens to changes of its kind. Failures of the event source are passed on as they come.
-/

set_option autoImplicit false

namespace LiveConfig

/-- How long a burst must be quiet, in milliseconds, and which kinds of change are sent. -/
structure Debounce where
  quiet : Nat := 100
  listen : List ChangeKind := [.create, .modify]
deriving DecidableEq, Repr

/-- A burst that has not ended: its change so far, and the time of its latest occurrence. -/
structure Pending where
  change : Change
  lastSeen : Nat
deriving DecidableEq, Repr

inductive WatchInput where
  | raw (event : RawEvent)
  | failure (message : String)
  | tick
deriving DecidableEq, Repr

inductive WatchOutput where
  | changed (change : Change)
  | failed (message : String)
deriving DecidableEq, Repr

/-- The kind of a burst after one more occurrence. -/
def ChangeKind.followedBy : ChangeKind → ChangeKind → ChangeKind
  | .create, .modify => .create
  | .remove, .modify => .remove
  | _, kind => kind

namespace Debounce

/-- The burst after one more occurrence, which starts one if there is none. -/
def record (now : Nat) (p : Option Pending) (c : Change) : Option Pending :=
  match p with
  | none => some ⟨c, now⟩
  | some p => some ⟨⟨p.change.path, p.change.kind.followedBy c.kind⟩, now⟩

def absorb (name : String) (now : Nat) (p : Option Pending) (e : RawEvent) : Option Pending :=
  (e.changes name).foldl (record now) p

def isReady (d : Debounce) (now : Nat) (p : Pending) : Bool := p.lastSeen + d.quiet ≤ now

def flush (d : Debounce) (now : Nat) : Option Pending → Option Pending × List WatchOutput
  | none => (none, [])
  | some p =>
      if d.isReady now p then
        (none, if p.change.kind ∈ d.listen then [.changed p.change] else [])
      else (some p, [])

def step (d : Debounce) (name : String) (p : Option Pending) (now : Nat) :
    WatchInput → Option Pending × List WatchOutput
  | .raw e => (absorb name now p e, [])
  | .failure message => (p, [.failed message])
  | .tick => d.flush now p

/-- Takes inputs with their times in order: what is pending afterwards, and what was sent. -/
def run (d : Debounce) (name : String) :
    Option Pending → List (Nat × WatchInput) → Option Pending × List WatchOutput
  | p, [] => (p, [])
  | p, (now, input) :: rest =>
      let (p, sent) := d.step name p now input
      let (p, later) := d.run name p rest
      (p, sent ++ later)

end Debounce

end LiveConfig
