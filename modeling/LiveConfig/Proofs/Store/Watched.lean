import LiveConfig.Store.Watching
/-!
A store that is watched again and again, move by move.

A watch is built from parts: the directory is made to tell a worker, the worker debounces what it is
told and sends changes, and a dispatcher receives them and has a reload tick run for each. The store
holds the watch in force, and to let go of it takes the parts down. Here the parts of every watch
that was ever started are kept, each of them goes on until something ends it, and all of them may
move in any order with the calls on the store and with what others do to files. A call that starts
or ends a watch is one move, as it has the lock of the store from its first step to its last.

What was sent and not received waits in a channel of limited room. A dispatcher that finds more
waiting than the channel holds is told only that it missed the rest, and answers the rest with one
tick. The directory tells of events and never of failures of its own.
-/

set_option autoImplicit false

namespace LiveConfig

variable {V : Vocabulary}

def WatchOutput.change? : WatchOutput → Option Change
  | changed c => some c
  | failed _ => none

def Watch.sends (w : Watch) (now : Nat) (input : WatchInput) : List Change :=
  (w.receive [(now, input)]).2.filterMap WatchOutput.change?

/-! ### The parts of a watch -/

/-- The parts of a watch that was started, as they stand. -/
structure WatchTasks where
  /-- The watch as its worker has it. -/
  watch : Watch
  /-- Whether the directory tells the worker of events. -/
  hearing : Bool := true
  /-- The events that the worker was told of and has not taken. -/
  inputs : List RawEvent := []
  /-- Whether the worker is alive. -/
  working : Bool := true
  /-- Whether a dispatcher was spawned and is alive. -/
  serving : Bool := false
  /-- The numbers of the changes that were sent to the dispatcher and not received. -/
  inbox : List Nat := []
  /-- Whether a tick that the dispatcher started is still running. -/
  busy : Bool := false

namespace WatchTasks

def hear (t : WatchTasks) (events : List DirectoryEvent) : WatchTasks :=
  if t.hearing then { t with inputs := t.inputs ++ events.filterMap t.watch.rawEvent? } else t

def stop (t : WatchTasks) : WatchTasks := { t with working := false }

def abort (t : WatchTasks) : WatchTasks := { t with serving := false, inbox := [] }

/-- The watcher goes away: its worker is aborted, and the directory tells it nothing any more. -/
def drop (t : WatchTasks) : WatchTasks := { t.stop with hearing := false, inputs := [] }

def release (t : WatchTasks) : WatchTasks := t.stop.abort.drop

end WatchTasks

/-! ### The store and all that was started -/

/-- A call that starts a watch: whether there is a runtime, and why the system does not let the
directory be watched, if it does not. -/
structure WatchAttempt where
  hasRuntime : Bool := true
  debounce : Debounce := {}
  refusal : Option String := none

def WatchAttempt.answer (a : WatchAttempt) : Except StoreError Unit :=
  a.refusal.elim (.ok ()) fun message => .error (.watch (.source message))

/-- How a call that starts or ends a watch came out. -/
inductive WatchCall where
  | started
  | failed (e : StoreError)
  | closed
deriving DecidableEq

/-- A change that the worker of a watch sent. -/
structure SentChange where
  watch : Nat
  change : Change
deriving DecidableEq

/-- A reload tick that the dispatcher of a watch started, and the numbers of the changes that it
answers. -/
structure StartedTick where
  watch : Nat
  changes : List Nat
deriving DecidableEq

/-- A store with the parts of all watches that were started on it. Watches are numbered in the order
in which they were started, and changes in the order in which they were sent. -/
structure WatchedStore (V : Vocabulary) where
  store : Store V
  files : FileTree
  /-- How many changes a channel holds. -/
  room : Nat
  now : Nat := 0
  tasks : List WatchTasks := []
  /-- The watch whose parts the store holds. -/
  inForce : Option Nat := none
  sent : List SentChange := []
  ticks : List StartedTick := []
  /-- The changes that were still waiting at a close. -/
  overtaken : List Nat := []
  calls : List WatchCall := []

inductive WatchMove where
  | watch (a : WatchAttempt)
  | closeWatch
  | close
  | act (action : FileAction)
  | wait (time : Nat)
  /-- A worker takes the event that it was told of next. -/
  | take (k : Nat)
  /-- The clock of a worker ticks. -/
  | ring (k : Nat)
  /-- A dispatcher goes on: its tick is over, or it receives and starts one. -/
  | serve (k : Nat)

namespace WatchMove

def closes : WatchMove → Bool
  | closeWatch | close => true
  | _ => false

def serves (k : Nat) : WatchMove → Bool
  | serve j => j = k
  | _ => false

end WatchMove

/-- Some watch was started, and no close came after it. -/
def Standing (calls : List WatchCall) : Prop :=
  ∃ before after, calls = before ++ .started :: after ∧ .closed ∉ after

namespace WatchedStore

/-- A store before it is watched for the first time. -/
def start (store : Store V) (files : FileTree) (room : Nat) : WatchedStore V :=
  { store := store.stopWatching, files, room }

def spawnWorker (s : WatchedStore V) (w : Watch) : WatchedStore V :=
  { s with tasks := s.tasks ++ [{ watch := w }] }

def spawnDispatcher (s : WatchedStore V) (k : Nat) : WatchedStore V :=
  { s with tasks := s.tasks.modify k fun t => { t with serving := true } }

def hold (s : WatchedStore V) (k : Nat) (w : Watch) : WatchedStore V :=
  { s with store := { s.store with watch := some w }, inForce := some k }

/-- Starts a watch, unless one is in force or the file cannot be watched. -/
def watch (s : WatchedStore V) (a : WatchAttempt) : Except StoreError Unit × WatchedStore V :=
  if s.store.isWatching then (.error .alreadyWatching, s)
  else
    match Watch.start a.hasRuntime s.files s.store.path a.debounce, a.refusal with
    | .error e, _ => (.error (.watch e), s)
    | .ok _, some message => (.error (.watch (.source message)), s)
    | .ok w, none =>
        (.ok (), ((s.spawnWorker w).spawnDispatcher s.tasks.length).hold s.tasks.length w)

def inbox (s : WatchedStore V) (k : Nat) : List Nat := s.tasks[k]?.elim [] (·.inbox)

def waiting (s : WatchedStore V) : List Nat := s.inForce.elim [] s.inbox

/-- The store lets go of the watch in force, if there is one. -/
def stop (s : WatchedStore V) : WatchedStore V :=
  match s.inForce with
  | none => s
  | some k =>
      { s with
        store := s.store.stopWatching
        inForce := none
        tasks := s.tasks.modify k .release
        overtaken := s.overtaken ++ s.inbox k }

/-- Others act on files, and the directories tell of it. An action that fails does nothing. -/
def act (s : WatchedStore V) (a : FileAction) : WatchedStore V :=
  match a.apply s.files with
  | .error _ => s
  | .ok (files, events) => { s with files, tasks := s.tasks.map (·.hear events) }

def numbers (s : WatchedStore V) (changes : List Change) : List Nat :=
  List.range' s.sent.length changes.length

def put (s : WatchedStore V) (k : Nat) (t : WatchTasks) : WatchedStore V :=
  { s with tasks := s.tasks.set k t }

/-- A worker, whose parts come to stand at `t`, takes an input and sends what the debouncer does. -/
def work (s : WatchedStore V) (k : Nat) (t : WatchTasks) (input : WatchInput) : WatchedStore V :=
  let watch := (t.watch.receive [(s.now, input)]).1
  let inbox := t.inbox ++ s.numbers (t.watch.sends s.now input)
  { s.put k { t with watch, inbox := if t.serving then inbox else [] } with
    store := if s.inForce = some k then { s.store with watch := some watch } else s.store
    sent := s.sent ++ (t.watch.sends s.now input).map (⟨k, ·⟩) }

def take (s : WatchedStore V) (k : Nat) : WatchedStore V :=
  match s.tasks[k]? with
  | none => s
  | some t =>
      match t.working, t.inputs with
      | true, e :: rest => s.work k { t with inputs := rest } (.raw e)
      | _, _ => s

def ring (s : WatchedStore V) (k : Nat) : WatchedStore V :=
  match s.tasks[k]? with
  | none => s
  | some t => if t.working then s.work k t .tick else s

/-- How many of the changes that wait the next tick answers: the first, or all that the channel no
longer holds. -/
def due (s : WatchedStore V) (inbox : List Nat) : Nat := max 1 (inbox.length - s.room)

def serve (s : WatchedStore V) (k : Nat) : WatchedStore V :=
  match s.tasks[k]? with
  | none => s
  | some t =>
      if t.busy then s.put k { t with busy := false }
      else if t.serving ∧ t.inbox ≠ [] then
        { s.put k { t with inbox := t.inbox.drop (s.due t.inbox), busy := true } with
          ticks := s.ticks ++ [⟨k, t.inbox.take (s.due t.inbox)⟩] }
      else s

def move (s : WatchedStore V) : WatchMove → WatchedStore V
  | .watch a =>
      match s.watch a with
      | (.ok _, s) => { s with calls := s.calls ++ [.started] }
      | (.error e, s) => { s with calls := s.calls ++ [.failed e] }
  | .closeWatch | .close => { s.stop with calls := s.calls ++ [.closed] }
  | .act a => s.act a
  | .wait time => { s with now := s.now + time }
  | .take k => s.take k
  | .ring k => s.ring k
  | .serve k => s.serve k

def after (s : WatchedStore V) (moves : List WatchMove) : WatchedStore V := moves.foldl move s

def workers (s : WatchedStore V) : Nat := s.tasks.countP (·.working)

def dispatchers (s : WatchedStore V) : Nat := s.tasks.countP (·.serving)

def busy (s : WatchedStore V) (k : Nat) : Bool := s.tasks[k]?.any (·.busy)

theorem after_induction {P : WatchedStore V → Prop} (keeps : ∀ s m, P s → P (s.move m))
    {s : WatchedStore V} (start : P s) (moves : List WatchMove) : P (s.after moves) := by
  induction moves generalizing s with
  | nil => exact start
  | cons m rest ih => exact ih (keeps s m start)

end WatchedStore

end LiveConfig
