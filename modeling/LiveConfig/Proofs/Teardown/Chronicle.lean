import LiveConfig.Teardown.Run
/-!
What a run of a teardown chain does, step by step.

Every step of a run shows one event: an action begins, pushes another one, runs the chain, or is
over, or a run returns. The events of a whole run are its chronicle.
-/

set_option autoImplicit false

namespace LiveConfig.Teardown

variable {σ : Type}

/-- What a step of a run shows. -/
inductive Event (σ : Type) where
  /-- An action is taken off the chain and begins. -/
  | began (a : Action σ)
  | pushed (a : Action σ)
  /-- The current action changes the world or looks at the chain. -/
  | worked
  /-- The current action runs the chain. -/
  | called
  | succeeded (name : String)
  | failed (name error : String)
  | panicked (name message : String)
  /-- A run is over, and has counted failures. -/
  | returned (failures : Nat)

namespace Event

def begun? : Event σ → Option (Action σ)
  | began a => some a
  | _ => none

def pushed? : Event σ → Option (Action σ)
  | pushed a => some a
  | _ => none

def returned? : Event σ → Option Nat
  | returned failures => some failures
  | _ => none

def notice? : Event σ → Option Notice
  | failed name error => some (.actionFailed name error)
  | _ => none

def panic? : Event σ → Option Panic
  | panicked _ message => some ⟨message⟩
  | _ => none

def over? : Event σ → Option String
  | succeeded name | failed name _ | panicked name _ => some name
  | _ => none

end Event

namespace Progress

def event (p : Progress σ) : Event σ :=
  match p.current, p.waiting with
  | some ⟨name, .finish f⟩, _ =>
      match (f p.world).1 with
      | .ok () => .succeeded name
      | .error e => .failed name e
      | .panic m => .panicked name m
  | some ⟨_, .act ..⟩, _ | some ⟨_, .size ..⟩, _ => .worked
  | some ⟨_, .push inner routine _⟩, _ => .pushed ⟨inner, routine⟩
  | some ⟨_, .run ..⟩, _ => .called
  | none, a :: _ => .began a
  | none, [] => .returned p.failed

def chronicle (p : Progress σ) : List (Event σ) :=
  match h : p.step with
  | .inl _ => [p.event]
  | .inr next =>
      have : next.weight < p.weight := weight_lt_of_step h
      p.event :: next.chronicle
termination_by p.weight

/-- The progress after some steps, or the end if it came before. -/
def after : Nat → Progress σ → Ended σ ⊕ Progress σ
  | 0, p => .inr p
  | k + 1, p =>
      match p.step with
      | .inl ended => .inl ended
      | .inr next => next.after k

/-- A step, what it shows and where it leads: all that a run can do. -/
inductive Stepped (p : Progress σ) : Event σ → Ended σ ⊕ Progress σ → Prop
  | began {a : Action σ} {rest : List (Action σ)} : p.current = none → p.waiting = a :: rest →
      Stepped p (.began a) (.inr { p with current := some a, waiting := rest })
  | finished : p.current = none → p.waiting = [] → p.outer = [] →
      Stepped p (.returned p.failed) (.inl ⟨.ok p.failed, [], p.world, p.notices⟩)
  | resumed {s : Suspended σ} {outer : List (Suspended σ)} : p.current = none → p.waiting = [] →
      p.outer = s :: outer → Stepped p (.returned p.failed) (.inr { p with
        failed := s.failed
        current := some ⟨s.name, s.rest⟩
        outer := outer
        world := s.resume p.failed p.world })
  | acted {name : String} {f : σ → σ} {rest : Routine σ} : p.current = some ⟨name, .act f rest⟩ →
      Stepped p .worked (.inr { p with current := some ⟨name, rest⟩, world := f p.world })
  | looked {name : String} {f : Nat → σ → σ} {rest : Routine σ} :
      p.current = some ⟨name, .size f rest⟩ → Stepped p .worked (.inr { p with
        current := some ⟨name, rest⟩
        world := f p.waiting.length p.world })
  | pushed {name inner : String} {routine rest : Routine σ} :
      p.current = some ⟨name, .push inner routine rest⟩ →
      Stepped p (.pushed ⟨inner, routine⟩) (.inr { p with
        current := some ⟨name, rest⟩
        waiting := ⟨inner, routine⟩ :: p.waiting })
  | called {name : String} {f : Nat → σ → σ} {rest : Routine σ} :
      p.current = some ⟨name, .run f rest⟩ → Stepped p .called (.inr { p with
        failed := 0
        current := none
        outer := ⟨p.failed, name, f, rest⟩ :: p.outer })
  | succeeded {name : String} {f : σ → Outcome String Unit × σ} {w : σ} :
      p.current = some ⟨name, .finish f⟩ → f p.world = (.ok (), w) →
      Stepped p (.succeeded name) (.inr { p with current := none, world := w })
  | failed {name e : String} {f : σ → Outcome String Unit × σ} {w : σ} :
      p.current = some ⟨name, .finish f⟩ → f p.world = (.error e, w) →
      Stepped p (.failed name e) (.inr { p with
        failed := p.failed + 1
        current := none
        world := w
        notices := p.notices ++ [.actionFailed name e] })
  | panicked {name m : String} {f : σ → Outcome String Unit × σ} {w : σ} :
      p.current = some ⟨name, .finish f⟩ → f p.world = (.panic m, w) →
      Stepped p (.panicked name m) (.inl ⟨.error ⟨m⟩, p.waiting, w, p.notices⟩)

theorem stepped_finish {p : Progress σ} {name : String} {f : σ → Outcome String Unit × σ}
    (hcurrent : p.current = some ⟨name, .finish f⟩) : Stepped p p.event p.step := by
  rcases hend : f p.world with ⟨ended, w⟩
  cases ended with
  | ok _ =>
      have hstepped := Stepped.succeeded hcurrent hend
      simpa only [event, step, hcurrent, execute, hend] using hstepped
  | error e =>
      have hstepped := Stepped.failed hcurrent hend
      simpa only [event, step, hcurrent, execute, hend] using hstepped
  | panic m =>
      have hstepped := Stepped.panicked hcurrent hend
      simpa only [event, step, hcurrent, execute, hend] using hstepped

theorem stepped (p : Progress σ) : Stepped p p.event p.step := by
  obtain ⟨failed, current, outer, waiting, w, notices⟩ := p
  cases current with
  | none =>
      cases waiting with
      | cons a rest => exact .began rfl rfl
      | nil =>
          cases outer with
          | nil => exact .finished rfl rfl rfl
          | cons s outer => exact .resumed rfl rfl rfl
  | some a =>
      obtain ⟨name, routine⟩ := a
      cases routine with
      | act f rest => exact .acted rfl
      | size f rest => exact .looked rfl
      | push inner routine rest => exact .pushed rfl
      | run f rest => exact .called rfl
      | finish f => exact stepped_finish rfl

/-- The steps of a run with what they show, up to its end. -/
inductive Runs : Progress σ → List (Event σ) → Ended σ → Prop
  | last {p : Progress σ} {e : Event σ} {ended : Ended σ} : Stepped p e (.inl ended) →
      Runs p [e] ended
  | next {p q : Progress σ} {e : Event σ} {events : List (Event σ)} {ended : Ended σ} :
      Stepped p e (.inr q) → Runs q events ended → Runs p (e :: events) ended

variable {p q : Progress σ} {ended : Ended σ}

theorem chronicle_last (h : p.step = .inl ended) : p.chronicle = [p.event] := by
  rw [chronicle]
  split
  · rfl
  · rename_i hnext
    cases h.symm.trans hnext

theorem chronicle_next (h : p.step = .inr q) : p.chronicle = p.event :: q.chronicle := by
  rw [chronicle]
  split
  · rename_i hlast
    cases h.symm.trans hlast
  · rename_i hnext
    obtain rfl := Sum.inr.inj (h.symm.trans hnext)
    rfl

theorem finish_last (h : p.step = .inl ended) : p.finish = ended := by
  rw [finish]
  split
  · rename_i hlast
    exact (Sum.inl.inj (h.symm.trans hlast)).symm
  · rename_i hnext
    cases h.symm.trans hnext

theorem finish_next (h : p.step = .inr q) : p.finish = q.finish := by
  rw [finish]
  split
  · rename_i hlast
    cases h.symm.trans hlast
  · rename_i hnext
    obtain rfl := Sum.inr.inj (h.symm.trans hnext)
    rfl

theorem runs (p : Progress σ) : Runs p p.chronicle p.finish := by
  have hstepped := p.stepped
  rcases hstep : p.step with ended | next
  · rw [hstep] at hstepped
    rw [chronicle_last hstep, finish_last hstep]
    exact .last hstepped
  · rw [hstep] at hstepped
    have : next.weight < p.weight := weight_lt_of_step hstep
    rw [chronicle_next hstep, finish_next hstep]
    exact .next hstepped next.runs
termination_by p.weight

end Progress

/-- A run of the chain before its first step. -/
def start (t : Teardown σ) (w : σ) : Progress σ := ⟨0, none, [], t.waiting, w, []⟩

theorem finish_start (t : Teardown σ) (w : σ) : (t.start w).finish = t.run w := rfl

def chronicle (t : Teardown σ) (w : σ) : List (Event σ) := (t.start w).chronicle

end LiveConfig.Teardown
