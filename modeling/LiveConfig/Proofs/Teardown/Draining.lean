import LiveConfig.Proofs.Teardown.Chronicle
import Mathlib.Data.List.Perm.Basic
/-!
A run drains its chain, however the chain grows meanwhile.

Each action that begins is the newest one that waits at that moment. Unless an action panics, every
action that was ever registered begins once and comes to its end, no matter how many fail, and the
numbers that the runs return add up to the failures. A panic leaves the actions that have not begun
where they are, and a later run goes on with them.
-/

set_option autoImplicit false

namespace LiveConfig

variable {σ : Type}

/-! ### Families -/

namespace Routine

/-- The actions that a routine pushes, the last pushed first, each followed by those that it pushes
itself. -/
def later : Routine σ → List (Action σ)
  | finish _ => []
  | act _ rest | size _ rest | run _ rest => rest.later
  | push name routine rest => rest.later ++ ⟨name, routine⟩ :: routine.later

def nests : Routine σ → Bool
  | finish _ => false
  | act _ rest | size _ rest => rest.nests
  | push _ routine rest => routine.nests || rest.nests
  | run _ _ => true

end Routine

def Action.family (a : Action σ) : List (Action σ) := a :: a.routine.later

namespace Teardown

/-! ### The newest first -/

/-- The events lead from one chain to another, where chains have the newest action first: what is
pushed is the newest from then on, and what begins was the newest until then. -/
inductive NewestFirst : List (Action σ) → List (Event σ) → List (Action σ) → Prop
  | nil (chain : List (Action σ)) : NewestFirst chain [] chain
  | pushed {a : Action σ} {chain last : List (Action σ)} {events : List (Event σ)} :
      NewestFirst (a :: chain) events last → NewestFirst chain (.pushed a :: events) last
  | began {a : Action σ} {chain last : List (Action σ)} {events : List (Event σ)} :
      NewestFirst chain events last → NewestFirst (a :: chain) (.began a :: events) last
  | other {e : Event σ} {chain last : List (Action σ)} {events : List (Event σ)} :
      e.pushed? = none → e.begun? = none → NewestFirst chain events last →
      NewestFirst chain (e :: events) last

namespace NewestFirst

variable {first middle last : List (Action σ)} {events more : List (Event σ)}

theorem append (h : NewestFirst first events middle) (h' : NewestFirst middle more last) :
    NewestFirst first (events ++ more) last := by
  induction h with
  | nil chain => exact h'
  | pushed _ ih => exact .pushed (ih h')
  | began _ ih => exact .began (ih h')
  | other hpushed hbegun _ ih => exact .other hpushed hbegun (ih h')

end NewestFirst

/-! ### Runs -/

namespace Progress

/-- The actions that are still to begin if nothing panics. -/
def due (p : Progress σ) : List (Action σ) :=
  (p.current.toList.flatMap (·.routine.later) ++ p.outer.flatMap (·.rest.later)) ++
    p.waiting.flatMap Action.family

def counted (p : Progress σ) : Nat := p.failed + (p.outer.map (·.failed)).foldr (· + ·) 0

def names (p : Progress σ) : List String := p.current.toList.map (·.name) ++ p.outer.map (·.name)

theorem Stepped.newestFirst {p : Progress σ} {e : Event σ} {result : Ended σ ⊕ Progress σ}
    (h : Stepped p e result) :
    NewestFirst p.waiting [e] (result.elim (·.waiting) (·.waiting)) := by
  cases h with
  | began _ hwaiting => rw [hwaiting]; exact .began (.nil _)
  | pushed _ => exact .pushed (.nil _)
  | finished _ hwaiting _ => rw [hwaiting]; exact .other rfl rfl (.nil _)
  | resumed | acted | looked | called | succeeded | failed | panicked =>
      exact .other rfl rfl (.nil _)

theorem Stepped.due {p q : Progress σ} {e : Event σ} (h : Stepped p e (.inr q)) :
    (e.begun?.toList ++ q.due).Perm p.due := by
  cases h with
  | @began a rest hcurrent hwaiting =>
      have hcomm := List.perm_append_comm_assoc a.family (p.outer.flatMap (·.rest.later))
        (rest.flatMap Action.family)
      simpa [Progress.due, hcurrent, hwaiting, Event.begun?, Action.family] using hcomm
  | resumed hcurrent hwaiting houter =>
      simp [Progress.due, hcurrent, hwaiting, houter, Event.begun?]
  | acted hcurrent | looked hcurrent | called hcurrent =>
      simp [Progress.due, hcurrent, Event.begun?, Routine.later]
  | succeeded hcurrent _ | failed hcurrent _ =>
      simp [Progress.due, hcurrent, Event.begun?, Routine.later]
  | @pushed _ inner routine rest hcurrent =>
      -- what is pushed comes before all that the runs that wait are still to push
      have hcomm := List.perm_append_comm_assoc (p.outer.flatMap (·.rest.later))
        (Action.family ⟨inner, routine⟩) (p.waiting.flatMap Action.family)
      simpa [Progress.due, hcurrent, Event.begun?, Routine.later, Action.family] using
        hcomm.append_left rest.later

/-- Nothing runs the chain or is going to, apart from the run itself. -/
structure Plain (p : Progress σ) : Prop where
  outer : p.outer = []
  current : ∀ a ∈ p.current, a.routine.nests = false
  waiting : ∀ a ∈ p.waiting, a.routine.nests = false

theorem Plain.step {p q : Progress σ} {e : Event σ} (hplain : p.Plain) (h : Stepped p e (.inr q)) :
    q.Plain ∧ e.begun?.toList ++ q.due = p.due := by
  obtain ⟨houter, hcurrents, hwaitings⟩ := hplain
  cases h with
  | @began a rest hcurrent hwaiting =>
      rw [hwaiting, List.forall_mem_cons] at hwaitings
      refine ⟨⟨houter, by simpa using hwaitings.1, hwaitings.2⟩, ?_⟩
      simp [Progress.due, hcurrent, hwaiting, houter, Event.begun?, Action.family]
  | resumed _ _ hsome => cases houter.symm.trans hsome
  | acted hcurrent | looked hcurrent =>
      refine ⟨⟨houter, ?_, hwaitings⟩, ?_⟩
      · simpa [hcurrent, Routine.nests] using hcurrents
      · simp [Progress.due, hcurrent, Event.begun?, Routine.later]
  | called hcurrent => simp [hcurrent, Routine.nests] at hcurrents
  | succeeded hcurrent _ | failed hcurrent _ =>
      refine ⟨⟨houter, by simp, hwaitings⟩, ?_⟩
      simp [Progress.due, hcurrent, Event.begun?, Routine.later]
  | pushed hcurrent =>
      simp only [hcurrent, Option.mem_some_iff, forall_eq', Routine.nests, Bool.or_eq_false_iff]
        at hcurrents
      refine ⟨⟨houter, by simpa using hcurrents.2,
        List.forall_mem_cons.mpr ⟨hcurrents.1, hwaitings⟩⟩, ?_⟩
      simp [Progress.due, hcurrent, houter, Event.begun?, Routine.later, Action.family]

theorem Stepped.counted {p q : Progress σ} {e : Event σ} (h : Stepped p e (.inr q)) :
    e.returned?.getD 0 + q.counted = p.counted + e.notice?.toList.length := by
  cases h with
  | began | acted | looked | pushed | succeeded =>
      simp [Progress.counted, Event.returned?, Event.notice?]
  | resumed _ _ houter => simp [Progress.counted, houter, Event.returned?, Event.notice?]
  | called => simp [Progress.counted, Event.returned?, Event.notice?]
  | failed =>
      simp only [Progress.counted, Event.returned?, Event.notice?, Option.getD_none,
        Option.toList_some, List.length_singleton]
      omega

theorem Stepped.names {p q : Progress σ} {e : Event σ} (h : Stepped p e (.inr q)) :
    (e.over?.toList ++ q.names).Perm (p.names ++ e.begun?.toList.map (·.name)) := by
  cases h with
  | @began a _ hcurrent _ =>
      have hcomm : ([a.name] ++ p.outer.map (·.name)).Perm (p.outer.map (·.name) ++ [a.name]) :=
        List.perm_append_comm
      simpa [Progress.names, hcurrent, Event.over?, Event.begun?] using hcomm
  | resumed hcurrent _ houter =>
      simp [Progress.names, hcurrent, houter, Event.over?, Event.begun?]
  | acted hcurrent | looked hcurrent | pushed hcurrent | called hcurrent =>
      simp [Progress.names, hcurrent, Event.over?, Event.begun?]
  | succeeded hcurrent _ | failed hcurrent _ =>
      simp [Progress.names, hcurrent, Event.over?, Event.begun?]

theorem notices_step {p q : Progress σ} {e : Event σ} (h : Stepped p e (.inr q)) :
    q.notices = p.notices ++ e.notice?.toList := by
  cases h <;> simp [Event.notice?]

theorem shown_cons {α : Type} (f : Event σ → Option α) (e : Event σ) (events : List (Event σ)) :
    (e :: events).filterMap f = (f e).toList ++ events.filterMap f := by
  cases he : f e <;> simp [he]

namespace Runs

variable {p : Progress σ} {events : List (Event σ)} {ended : Ended σ}

theorem newestFirst (h : Runs p events ended) : NewestFirst p.waiting events ended.waiting := by
  induction h with
  | last hstep => exact hstep.newestFirst
  | next hstep _ ih => exact hstep.newestFirst.append ih

/-- The numbers that runs return add up to the failures. -/
theorem returned (h : Runs p events ended) {n : Nat} (hok : ended.result = .ok n) :
    (events.filterMap Event.returned?).foldr (· + ·) 0 =
      p.counted + (events.filterMap Event.notice?).length := by
  induction h with
  | last hstep =>
      cases hstep with
      | finished _ _ houter => simp [counted, houter, Event.returned?, Event.notice?]
      | panicked _ _ => cases hok
  | @next _ _ e events _ hstep _ ih =>
      have hsum : ((e :: events).filterMap Event.returned?).foldr (· + ·) 0 =
          e.returned?.getD 0 + (events.filterMap Event.returned?).foldr (· + ·) 0 := by
        rw [shown_cons]
        cases e.returned? <;> simp
      have hcounted := hstep.counted
      rw [hsum, ih hok, shown_cons, List.length_append]
      omega

theorem all_over (h : Runs p events ended) {n : Nat} (hok : ended.result = .ok n) :
    (events.filterMap Event.over?).Perm
      (p.names ++ (events.filterMap Event.begun?).map (·.name)) := by
  induction h with
  | last hstep =>
      cases hstep with
      | finished hcurrent _ houter =>
          simp [names, hcurrent, houter, shown_cons, Event.over?, Event.begun?]
      | panicked _ _ => cases hok
  | next hstep _ ih =>
      rw [shown_cons, shown_cons, List.map_append, ← List.append_assoc]
      refine ((ih hok).append_left _).trans ?_
      rw [← List.append_assoc]
      exact hstep.names.append_right _

theorem notices (h : Runs p events ended) :
    ended.notices = p.notices ++ events.filterMap Event.notice? := by
  induction h with
  | last hstep => cases hstep <;> simp [Event.notice?]
  | next hstep _ ih => rw [ih, notices_step hstep, shown_cons, List.append_assoc]

theorem ending (h : Runs p events ended) :
    (∀ n, ended.result = .ok n → ended.waiting = [] ∧ (∀ e ∈ events, e.panic? = none) ∧
      ∃ before, events = before ++ [.returned n]) ∧
    ∀ m, ended.result = .error m → ∃ before name, events = before ++ [.panicked name m.message] ∧
      ∀ e ∈ before, e.panic? = none := by
  induction h with
  | last hstep =>
      cases hstep with
      | finished _ _ _ =>
          refine ⟨fun n hok => ⟨rfl, by simp [Event.panic?], [], ?_⟩, nofun⟩
          rw [Except.ok.inj hok, List.nil_append]
      | @panicked name m _ _ _ _ =>
          refine ⟨nofun, fun panic herror => ⟨[], name, ?_, by simp⟩⟩
          rw [← Except.error.inj herror, List.nil_append]
  | @next _ _ e events _ hstep _ ih =>
      have he : e.panic? = none := by cases hstep <;> rfl
      refine ⟨fun n hok => ?_, fun m herror => ?_⟩
      · obtain ⟨hempty, hnone, before, rfl⟩ := ih.1 n hok
        exact ⟨hempty, List.forall_mem_cons.mpr ⟨he, hnone⟩, e :: before, rfl⟩
      · obtain ⟨before, name, rfl, hnone⟩ := ih.2 m herror
        exact ⟨e :: before, name, rfl, List.forall_mem_cons.mpr ⟨he, hnone⟩⟩

/-- Unless an action panics, everything that is due begins. -/
theorem begun_perm (h : Runs p events ended) {n : Nat} (hok : ended.result = .ok n) :
    (events.filterMap Event.begun?).Perm p.due := by
  induction h with
  | last hstep =>
      cases hstep with
      | finished hcurrent hwaiting houter => simp [due, hcurrent, hwaiting, houter, Event.begun?]
      | panicked _ _ => cases hok
  | next hstep _ ih =>
      rw [shown_cons]
      exact ((ih hok).append_left _).trans hstep.due

/-- Where nothing runs the chain, what is due begins in order, up to a panic. -/
theorem begun_append (h : Runs p events ended) (hplain : p.Plain) :
    events.filterMap Event.begun? ++ ended.waiting.flatMap Action.family = p.due := by
  induction h with
  | last hstep =>
      cases hstep with
      | finished hcurrent hwaiting houter => simp [due, hcurrent, hwaiting, houter, Event.begun?]
      -- an action that panics has pushed all that it was going to
      | panicked hcurrent _ => simp [due, hcurrent, hplain.outer, Event.begun?, Routine.later]
  | next hstep _ ih =>
      obtain ⟨hrest, hdue⟩ := hplain.step hstep
      rw [shown_cons, List.append_assoc, ih hrest, hdue]

end Runs

end Progress

/-! ### Drained chains -/

/-- What the events of a run and its end say about the chain that it drained. -/
structure Drained (chain : List (Action σ)) (events : List (Event σ)) (ended : Ended σ) :
    Prop where
  /-- Each action that begins is the newest one, and the others stay in order. -/
  newestFirst : NewestFirst chain events ended.waiting
  /-- Every failure is noted, in order. -/
  notices : ended.notices = events.filterMap Event.notice?
  /-- A run that returns has executed all there was and leaves nothing; the numbers that it and
  the runs inside it return add up to the failures. -/
  returned : ∀ n, ended.result = .ok n →
    ended.waiting = [] ∧ (∀ e ∈ events, e.panic? = none) ∧
    (∃ before, events = before ++ [.returned n]) ∧
    (events.filterMap Event.begun?).Perm (chain.flatMap Action.family) ∧
    (events.filterMap Event.over?).Perm ((events.filterMap Event.begun?).map (·.name)) ∧
    (events.filterMap Event.returned?).foldr (· + ·) 0 = ended.notices.length
  /-- A panic is the end of the run, and nothing else is. -/
  panicked : ∀ m, ended.result = .error m →
    ∃ before name, events = before ++ [.panicked name m.message] ∧ ∀ e ∈ before, e.panic? = none
  /-- Where no action runs the chain, each is followed by those that it pushed, the last first,
  before any older one. -/
  plain : (∀ a ∈ chain, a.routine.nests = false) →
    events.filterMap Event.begun? ++ ended.waiting.flatMap Action.family =
      chain.flatMap Action.family

theorem drained (t : Teardown σ) (w : σ) : Drained t.waiting (t.chronicle w) (t.run w) := by
  have hruns : Progress.Runs (t.start w) (t.chronicle w) (t.run w) := (t.start w).runs
  have hdue : (t.start w).due = t.waiting.flatMap Action.family := List.nil_append _
  have hnotices : (t.run w).notices = (t.chronicle w).filterMap Event.notice? := hruns.notices
  refine ⟨hruns.newestFirst, hnotices, fun n hok => ?_, hruns.ending.2, fun hplain => ?_⟩
  · obtain ⟨hempty, hnone, hlast⟩ := hruns.ending.1 n hok
    refine ⟨hempty, hnone, hlast, hdue ▸ hruns.begun_perm hok, hruns.all_over hok, ?_⟩
    rw [hruns.returned hok, hnotices]
    exact Nat.zero_add _
  · rw [← hdue]
    exact hruns.begun_append ⟨rfl, nofun, hplain⟩

end Teardown

end LiveConfig
