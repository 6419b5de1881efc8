import LiveConfig.Proofs.Store.Loaded
import LiveConfig.Proofs.Store.Ticking
import Mathlib.Logic.Function.Basic
/-!
A store in the hands of many threads, step by step.

Threads load the store and take reload ticks while others change what lies around it, the file above
all. To take the lock, to read the file, to revise what was read, to install it, to begin a callback
and to give the lock back are steps of their own, and steps of different threads may follow each
other in any order. What a callback does is left open: it may look, register, change what lies
around the store, load and reload, and end in any way. A call that nobody interrupts does what a
load or a tick does.
-/

set_option autoImplicit false

namespace LiveConfig

variable {V : Vocabulary} {σ : Type}

/-! ### Calls -/

inductive CallResult where
  | loaded (result : Outcome LoadError Unit)
  | ticked (result : Except Panic Nat)
deriving DecidableEq

def CallResult.panicked (ticks : Bool) (message : String) : CallResult :=
  if ticks then ticked (.error ⟨message⟩) else loaded (.panic message)

/-- Where a call stands. What was read comes with the version that it was read from. -/
inductive CallStage (V : Vocabulary) where
  /-- The call wants the lock. -/
  | waiting
  | reading
  | revising (version : Nat) (m : Settings)
  | installing (version : Nat) (m : Settings)
  | installed
  /-- A tick between two of its jobs. -/
  | running (jobs : List (TickJob V)) (failed : Nat)
  | calling (job : TickJob V) (jobs : List (TickJob V)) (failed : Nat)
  /-- The failure of a job is told. -/
  | reporting (e : StoreError) (jobs : List (TickJob V)) (failed : Nat)
  /-- The load of a tick failed, and this is told. -/
  | refused (e : LoadError)
  | leaving (result : CallResult)

inductive CallbackEnd where
  | ok
  | failed (name reason : String)
  | panicked (message : String)

namespace CallStage

def inside : CallStage V → Bool
  | waiting => false
  | _ => true

def callback : CallStage V → Bool
  | calling .. | reporting .. | refused _ => true
  | _ => false

/-- Whether the load of the call is done and its tick, if it is one, goes on. -/
def dispatches : CallStage V → Bool
  | installed | running .. | calling .. | reporting .. => true
  | _ => false

/-- Whether the load of the call is still to come or on its way. -/
def early : CallStage V → Bool
  | waiting | reading | revising .. | installing .. => true
  | _ => false

/-- Whether the next step of the call is an inner one: it neither takes or gives back the lock nor
revises or installs. -/
def inner : CallStage V → Bool
  | waiting | revising .. | installing .. | leaving _ => false
  | _ => true

def afterCallback (ended : CallbackEnd) : CallStage V → CallStage V
  | calling job jobs failed =>
      match ended, job with
      | .ok, _ => running jobs failed
      | .failed name reason, .update _ => reporting (.update name reason) jobs (failed + 1)
      -- A hook has no way to fail.
      | .failed .., .hook _ => calling job jobs failed
      | .panicked message, _ => leaving (.ticked (.error ⟨message⟩))
  | reporting e jobs failed =>
      match ended with
      | .ok => running jobs failed
      | .failed .. => reporting e jobs failed
      | .panicked message => leaving (.ticked (.error ⟨message⟩))
  | refused e =>
      match ended with
      | .ok => leaving (.ticked (.ok 1))
      | .failed .. => refused e
      | .panicked message => leaving (.ticked (.error ⟨message⟩))
  | stage => stage

def afterRevision (version : Nat) (ticks : Bool) : Except Panic Settings → CallStage V
  | .ok m => installing version m
  | .error p => leaving (.panicked ticks p.message)

def advance (l : Loader V σ) (w : World V σ) (version : Nat) (ticks : Bool) :
    CallStage V → CallStage V
  | reading =>
      match loadContent l.environment w.store.path (l.read w.outside w.store.path) with
      | .ok m => revising version m
      | .error e => if ticks then refused e else leaving (.loaded (.error e))
  | installed => if ticks then running w.store.registry.jobs 0 else leaving (.loaded (.ok ()))
  | running [] failed => leaving (.ticked (.ok failed))
  | running (job :: jobs) failed => calling job jobs failed
  | stage => stage

end CallStage

/-- A call of a load, or of a tick, with its number. -/
structure StoreCall (V : Vocabulary) where
  number : Nat
  ticks : Bool
  stage : CallStage V := .waiting

/-- What can be seen of a call: what it installs, what its callbacks find and how it ends. -/
inductive StoreEvent where
  /-- Settings from a version are installed by a call, which callbacks of outer calls made. -/
  | installed (thread call : Nat) (outer : List Nat) (version : Nat) (m : Settings)
  /-- A callback of a call looks at the settings. -/
  | looked (thread call : Nat) (shown : Option Settings)
  | returned (thread call : Nat) (result : CallResult)

/-- A store with its lock, the calls of every thread, the innermost first, and what was seen of them
so far. The past is what was around the store before, the oldest first. -/
structure SharedStore (V : Vocabulary) (σ : Type) where
  world : World V σ
  past : List σ := []
  lock : ReloadLock := .free
  calls : Nat → List (StoreCall V) := fun _ => []
  numbers : Nat := 0
  events : List StoreEvent := []

inductive StoreMove (V : Vocabulary) (σ : Type) where
  /-- Something around the store changes. -/
  | change (outside : σ)
  | register (r : Registration V)
  /-- A thread, or a callback on it, calls for a load or a tick. -/
  | call (thread : Nat) (ticks : Bool)
  /-- The innermost call of a thread goes on. -/
  | go (thread : Nat)
  /-- A callback on a thread looks at the settings. -/
  | look (thread : Nat)
  /-- A callback on a thread ends. -/
  | finish (thread : Nat) (ended : CallbackEnd)

/-- The thread that makes a move, unless it can be any. -/
def StoreMove.thread? : StoreMove V σ → Option Nat
  | change _ | register _ => none
  | call i _ | go i | look i | finish i _ => some i

namespace SharedStore

def start (w : World V σ) : SharedStore V σ := { world := w }

/-- The version of what lies around the store: the number of changes. -/
def version (s : SharedStore V σ) : Nat := s.past.length

/-- All that was and is around the store, version by version. -/
def history (s : SharedStore V σ) : List σ := s.past ++ [s.world.outside]

def put (s : SharedStore V σ) (i : Nat) (calls : List (StoreCall V)) : SharedStore V σ :=
  { s with calls := Function.update s.calls i calls }

/-- Whether a thread can call: it has no call, or a callback is at work. -/
def isFree (s : SharedStore V σ) (i : Nat) : Bool := (s.calls i).head?.all (·.stage.callback)

def install (s : SharedStore V σ) (i : Nat) (c : StoreCall V) (outer : List (StoreCall V))
    (version : Nat) (m : Settings) : SharedStore V σ :=
  { s.put i ({ c with stage := .installed } :: outer) with
    world := { s.world with store := { s.world.store with settings := some m } }
    events := s.events ++ [.installed i c.number (outer.map (·.number)) version m] }

variable (l : Loader V σ)

def revise (s : SharedStore V σ) (i : Nat) (c : StoreCall V) (outer : List (StoreCall V))
    (version : Nat) (m : Settings) : SharedStore V σ :=
  let (revised, w) := l.revised s.world.store.registry.revision m s.world
  { s.put i ({ c with stage := .afterRevision version c.ticks revised } :: outer) with world := w }

def go (s : SharedStore V σ) (i : Nat) : SharedStore V σ :=
  match s.calls i with
  | [] => s
  | c :: outer =>
      match c.stage with
      | .waiting =>
          match s.lock.take? i with
          | some lock => { s.put i ({ c with stage := .reading } :: outer) with lock }
          | none => s
      | .revising version m => s.revise l i c outer version m
      | .installing version m => s.install i c outer version m
      | .leaving result =>
          { s.put i outer with
            lock := s.lock.giveBack
            events := s.events ++ [.returned i c.number result] }
      | stage =>
          s.put i ({ c with stage := stage.advance l s.world s.version c.ticks } :: outer)

def move (s : SharedStore V σ) : StoreMove V σ → SharedStore V σ
  | .change outside =>
      { s with past := s.past ++ [s.world.outside], world := { s.world with outside } }
  | .register r => { s with world := { s.world with store := s.world.store.register r } }
  | .call i ticks =>
      if s.isFree i then
        { s.put i ({ number := s.numbers, ticks } :: s.calls i) with numbers := s.numbers + 1 }
      else s
  | .go i => s.go l i
  | .look i =>
      match s.calls i with
      | [] => s
      | c :: _ =>
          if c.stage.callback ∧ c.stage.dispatches then
            { s with events := s.events ++ [.looked i c.number s.world.store.settings] }
          else s
  | .finish i ended =>
      match s.calls i with
      | [] => s
      | c :: outer => s.put i ({ c with stage := c.stage.afterCallback ended } :: outer)

def after (s : SharedStore V σ) (moves : List (StoreMove V σ)) : SharedStore V σ :=
  moves.foldl (move l) s

theorem after_append (s : SharedStore V σ) (first second : List (StoreMove V σ)) :
    s.after l (first ++ second) = (s.after l first).after l second :=
  List.foldl_append

theorem after_induction {P : SharedStore V σ → Prop} (keeps : ∀ s m, P s → P (s.move l m))
    {s : SharedStore V σ} (start : P s) (moves : List (StoreMove V σ)) : P (s.after l moves) := by
  induction moves generalizing s with
  | nil => exact start
  | cons m rest ih => exact ih (keeps s m start)

/-! ### Calls without steps of other threads in between -/

/-- A thread gets from one state to another while the others rest. -/
def Alone (i : Nat) (s s' : SharedStore V σ) : Prop :=
  ∃ moves : List (StoreMove V σ), (∀ m ∈ moves, ∀ j ∈ m.thread?, j = i) ∧ s.after l moves = s'

/-- A thread on its own gets to a world and to calls, and leaves the lock as it is. -/
def Gets (s : SharedStore V σ) (i : Nat) (w : World V σ) (calls : List (StoreCall V)) : Prop :=
  ∃ s', Alone l i s s' ∧ s'.world = w ∧ s'.lock = s.lock ∧
    s'.calls = Function.update s.calls i calls

def Answers (s : SharedStore V σ) (i : Nat) (result : CallResult) (w : World V σ) : Prop :=
  ∃ s', Alone l i s s' ∧ s'.world = w ∧ s'.lock = s.lock ∧ s'.calls = s.calls ∧
    ∃ events, s'.events = events ++ [.returned i s.numbers result]

variable {l} {s s' s'' : SharedStore V σ} {i : Nat} {w w' : World V σ}
  {calls calls' outer : List (StoreCall V)} {c : StoreCall V}

theorem Alone.trans (h : Alone l i s s') (h' : Alone l i s' s'') : Alone l i s s'' := by
  obtain ⟨moves, hmoves, rfl⟩ := h
  obtain ⟨more, hmore, rfl⟩ := h'
  refine ⟨moves ++ more, fun m hm => ?_, s.after_append l moves more⟩
  rcases List.mem_append.mp hm with hm | hm
  · exact hmoves m hm
  · exact hmore m hm

theorem Alone.single (m : StoreMove V σ) (h : ∀ j ∈ m.thread?, j = i) :
    Alone l i s (s.move l m) :=
  ⟨[m], by simpa using h, rfl⟩

theorem Gets.refl (s : SharedStore V σ) (i : Nat) : Gets l s i s.world (s.calls i) :=
  ⟨s, ⟨[], by simp, rfl⟩, rfl, rfl, (Function.update_eq_self i s.calls).symm⟩

theorem Gets.trans (h : Gets l s i w calls) (h' : ∀ s', s'.world = w → s'.lock = s.lock →
    s'.calls i = calls → Gets l s' i w' calls') : Gets l s i w' calls' := by
  obtain ⟨s₁, hmoves, hworld, hlock, hcalls⟩ := h
  have hi : s₁.calls i = calls := by rw [hcalls, Function.update_self]
  obtain ⟨s₂, hmoves', hworld', hlock', hcalls'⟩ := h' s₁ hworld hlock hi
  refine ⟨s₂, hmoves.trans hmoves', hworld', hlock'.trans hlock, ?_⟩
  rw [hcalls', hcalls, Function.update_idem]

theorem Gets.advance (hcalls : s.calls i = c :: outer) (hinner : c.stage.inner = true) :
    Gets l s i s.world
      ({ c with stage := c.stage.advance l s.world s.version c.ticks } :: outer) := by
  refine ⟨s.move l (.go i), .single _ (by simp [StoreMove.thread?]), ?_⟩
  cases hstage : c.stage with
  | waiting | revising | installing | leaving =>
      rw [hstage] at hinner
      cases hinner
  | reading | installed | running | calling | reporting | refused =>
      simp [move, go, hcalls, hstage, put]

theorem Gets.finish (hcalls : s.calls i = c :: outer) (ended : CallbackEnd) :
    Gets l s i s.world ({ c with stage := c.stage.afterCallback ended } :: outer) := by
  refine ⟨s.move l (.finish i ended), .single _ (by simp [StoreMove.thread?]), ?_⟩
  simp [move, hcalls, put]

theorem answers_of_gets (ticks : Bool) {taken : ReloadLock} {result : CallResult}
    (hfree : s.isFree i = true) (htake : s.lock.take? i = some taken)
    (hgets : ∀ s', s'.world = s.world → s'.lock = taken →
      s'.calls i = ⟨s.numbers, ticks, .reading⟩ :: s.calls i →
      Gets l s' i w (⟨s.numbers, ticks, .leaving result⟩ :: s.calls i)) :
    Answers l s i result w := by
  let s₁ := (s.move l (.call i ticks)).move l (.go i)
  have hs₁ : s₁.world = s.world ∧ s₁.lock = taken ∧
      s₁.calls = Function.update s.calls i (⟨s.numbers, ticks, .reading⟩ :: s.calls i) := by
    simp [s₁, move, hfree, go, put, htake]
  obtain ⟨hworld, hlock, hcalls⟩ := hs₁
  obtain ⟨s₂, hmoves, hworld', hlock', hcalls'⟩ :=
    hgets s₁ hworld hlock (by rw [hcalls, Function.update_self])
  have hbegun : Alone l i s s₁ :=
    .trans (.single (.call i ticks) (by simp [StoreMove.thread?]))
      (.single (.go i) (by simp [StoreMove.thread?]))
  rw [hcalls, Function.update_idem] at hcalls'
  refine ⟨s₂.move l (.go i), (hbegun.trans hmoves).trans
    (.single _ (by simp [StoreMove.thread?])), ?_⟩
  have hgo : s₂.go l i = { s₂.put i (s.calls i) with
      lock := s₂.lock.giveBack
      events := s₂.events ++ [.returned i s.numbers result] } := by
    simp [go, hcalls']
  simp only [move, hgo, put, hworld', hlock', hlock, hcalls', Function.update_idem,
    Function.update_eq_self, ReloadLock.giveBack_of_take? htake, true_and]
  exact ⟨_, rfl⟩

theorem Answers.gets {result : CallResult} (h : Answers l s i result w) :
    Gets l s i w (s.calls i) := by
  obtain ⟨s', hmoves, hworld, hlock, hcalls, -⟩ := h
  exact ⟨s', hmoves, hworld, hlock, hcalls.trans (Function.update_eq_self i s.calls).symm⟩

end SharedStore

end LiveConfig
