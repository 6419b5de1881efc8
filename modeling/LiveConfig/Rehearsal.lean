import LiveConfig.Container.Session
/-!
Rehearsing a container: its objects are connections that exist on paper only.

Every callback notes what it was called for and what it saw of its container. Then it fails if it
is told to, and does its work otherwise: a connection to another address needs a new object, and
another pool size is taken in place.
-/

set_option autoImplicit false

namespace LiveConfig.Rehearsal

/-- Where connections go, and how many are pooled. -/
structure Config where
  dsn : String
  pool : Nat
deriving DecidableEq, Repr

/-- A connection, with its number among those made. -/
structure Connection where
  id : Nat
  dsn : String
  pool : Nat
  closed : Bool
deriving DecidableEq, Repr

namespace Config

def summary (c : Config) : String :=
  Text.summary "ConnConfig" [("dsn", Text.quote c.dsn), ("pool", toString c.pool)] false

def label (c : Config) : String := c.dsn ++ "/" ++ toString c.pool

def compare (old new : Config) : Decision :=
  if old.dsn ≠ new.dsn then .replace else if old.pool ≠ new.pool then .reset else .keep

end Config

def Connection.summary (c : Connection) : String :=
  Text.summary "Conn" [("id", toString c.id), ("dsn", Text.quote c.dsn)] false

/-- What the callbacks work on: the config to fetch, the failures they are told, the decision that
is forced, the number of connections made, and what was noted. -/
structure Stage where
  source : Config
  failures : List (String × String) := []
  forced : Option Decision := none
  made : Nat := 0
  journal : List String := []

/-- How a call ends that is told to fail: with an error, or with a panic if the message is marked as
one. -/
def failing {α : Type} (message : String) : Outcome String α :=
  let mark := "panic:".toList
  if mark.isPrefixOf message.toList then .panic (String.ofList (message.toList.drop mark.length))
  else .error message

namespace Stage

def note (s : Stage) (line : String) (view : Option (View Config)) : Stage :=
  let seen :=
    match view with
    | none => ""
    | some v => " [gen=" ++ toString v.generation ++ " leases=" ++ toString v.leases ++ " pool="
        ++ toString v.config.pool ++ "]"
  { s with journal := s.journal ++ [line ++ seen] }

def guard {α : Type} (s : Stage) (callback : CallbackName) (otherwise : Outcome String α) :
    Outcome String α :=
  ((s.failures.lookup callback.text).map failing).getD otherwise

end Stage

private def fetch (v : Option (View Config)) (s : Stage) : Outcome String Config × Stage :=
  (s.guard .fetch (.ok s.source), s.note "fetch" v)

private def compare (v : View Config) (old new : Config) (s : Stage) :
    Outcome String Decision × Stage :=
  (s.guard .compare (.ok (s.forced.getD (old.compare new))),
    s.note ("compare " ++ old.label ++ " " ++ new.label) (some v))

private def construct (v : Option (View Config)) (c : Config) (s : Stage) :
    Outcome String Connection × Stage :=
  let s := s.note ("construct " ++ c.label) v
  match s.guard .construct (.ok ()) with
  | .ok () => (.ok ⟨s.made + 1, c.dsn, c.pool, false⟩, { s with made := s.made + 1 })
  | .error e => (.error e, s)
  | .panic m => (.panic m, s)

private def reset (v : View Config) (o : Connection) (old new : Config) (s : Stage) :
    Outcome String Unit × Connection × Stage :=
  let s := s.note ("reset id=" ++ toString o.id ++ " " ++ old.label ++ " " ++ new.label) (some v)
  match s.guard .reset (.ok ()) with
  | .ok () =>
      if new.pool = 0 then (.error "pool size must be positive", o, s)
      else (.ok (), { o with pool := new.pool }, s)
  | failed => (failed, o, s)

private def close (o : Connection) (s : Stage) : Outcome String Unit × Connection × Stage :=
  (((s.failures.lookup "close").map .error).getD (.ok ()), { o with closed := true },
    s.note ("close id=" ++ toString o.id ++ " again=" ++ Text.ofBool o.closed) none)

def draft (name : String) (given : CallbackName → Bool) : Draft Connection Config Stage where
  name := name
  fetch := if given .fetch then some fetch else none
  compare := if given .compare then some compare else none
  construct := if given .construct then some construct else none
  reset := if given .reset then some reset else none
  close := close
  spawn := fun _ s => (.ok (), s)

end LiveConfig.Rehearsal
