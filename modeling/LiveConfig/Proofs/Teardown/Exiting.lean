import LiveConfig.Proofs.Teardown.Shared
/-!
What has become of a chain when a thread ends the process through it.

The lock of exits is held from the first action of an exit to the end of the process. So the thread
that ends the process has found the chain empty, and whatever another exit has taken off the chain
is over. A run takes no lock: what it has taken off can be cut short by an exit of another thread.
-/

set_option autoImplicit false

namespace LiveConfig

variable {σ : Type}

namespace SharedTeardown

open Teardown (Progress Event Ended Suspended NewestFirst)

variable {s s' : SharedTeardown σ} {t : Teardown σ} {i : Nat}

inductive Stepped (s : SharedTeardown σ) : SharedTeardown σ → Prop
  | stayed : Stepped s s
  | pushed {i : Nat} (a : Action σ) : s.threads i = .outside →
      Stepped s { s with waiting := a :: s.waiting, log := s.log ++ [(i, .pushed a)] }
  | begun {i : Nat} {c : ChainCall σ} : s.threads i = .outside → c.exits = false →
      c.unfinished = [] → c.leaves = false → Stepped s (s.put i c)
  | locked {i : Nat} {e : Ending} : s.threads i = .locking e → s.exiting = none →
      Stepped s { s.put i (.running (some e) 0 none []) with exiting := some i }
  | carried {i : Nat} {exit : Option Ending} {p q : Progress σ} {e : Event σ} :
      s.threads i = .running exit p.failed p.current p.outer → p.waiting = s.waiting →
      Progress.Stepped p e (.inr q) →
      Stepped s ({ s with log := s.log ++ [(i, e)] }.carryOn i exit q)
  | ended {i : Nat} {exit : Option Ending} {p : Progress σ} {e : Event σ} {ended : Ended σ} :
      s.threads i = .running exit p.failed p.current p.outer → p.waiting = s.waiting →
      Progress.Stepped p e (.inl ended) →
      Stepped s ({ s with log := s.log ++ [(i, e)] }.endRun i exit ended)
  | left {i : Nat} {e : Ending} (x : Exit σ) : s.threads i = .leaving e →
      Stepped s { s with exited := some (i, x) }

theorem stepped_go (s : SharedTeardown σ) (i : Nat) : Stepped s (s.go i) := by
  rw [go]
  split
  · exact .stayed
  · rename_i e hthread
    split
    · rename_i hfree
      exact .locked hthread hfree
    · exact .stayed
  · rename_i exit failed current outer hthread
    have hstep := (s.progress failed current outer).stepped
    dsimp only
    split
    · rename_i ended hended
      rw [hended] at hstep
      exact .ended (p := s.progress failed current outer) hthread rfl hstep
    · rename_i q hq
      rw [hq] at hstep
      exact .carried (p := s.progress failed current outer) hthread rfl hstep
  · rename_i e hthread
    exact .left _ hthread

theorem stepped (s : SharedTeardown σ) (m : ChainMove σ) : Stepped s (s.move m) := by
  unfold move
  split
  · rename_i hthread
    exact .pushed _ hthread
  · rename_i hthread
    exact .begun hthread rfl rfl rfl
  · rename_i hthread
    exact .begun hthread rfl rfl rfl
  · exact stepped_go s _
  · exact .stayed

/-- The log has a moment when the chain was empty and a run of the thread was over, and nothing of
the thread since. -/
def SawEmpty (t : Teardown σ) (log : List (Nat × Event σ)) (i : Nat) : Prop :=
  ∃ before failures later, log = before ++ (i, .returned failures) :: later ∧
    NewestFirst t.waiting (before.map (·.2)) [] ∧ ∀ x ∈ later, x.1 ≠ i

theorem SawEmpty.later {log : List (Nat × Event σ)} (h : SawEmpty t log i) {j : Nat} (hne : j ≠ i)
    (e : Event σ) : SawEmpty t (log ++ [(j, e)]) i := by
  obtain ⟨before, failures, later, rfl, hempty, hlater⟩ := h
  refine ⟨before, failures, later ++ [(j, e)], by simp, hempty, fun x hx => ?_⟩
  rcases List.mem_append.mp hx with hx | hx
  · exact hlater x hx
  · rw [List.mem_singleton.mp hx]
    exact hne

def eventsOf (log : List (Nat × Event σ)) (i : Nat) : List (Event σ) :=
  (log.filter (·.1 = i)).map (·.2)

theorem eventsOf_self (log : List (Nat × Event σ)) (i : Nat) (e : Event σ) :
    eventsOf (log ++ [(i, e)]) i = eventsOf log i ++ [e] := by
  simp [eventsOf]

theorem eventsOf_other (log : List (Nat × Event σ)) {i j : Nat} (hne : j ≠ i) (e : Event σ) :
    eventsOf (log ++ [(i, e)]) j = eventsOf log j := by
  simp [eventsOf, hne.symm]

/-- Unless something of the thread has panicked, what it has taken off the chain is over or is what
it executes. -/
def Accounted (events : List (Event σ)) (c : ChainCall σ) : Prop :=
  (∀ e ∈ events, e.panic? = none) → (events.filterMap Event.over? ++ c.unfinished).Perm
    ((events.filterMap Event.begun?).map (·.name))

theorem Accounted.idle {events : List (Event σ)} {c c' : ChainCall σ} (h : Accounted events c)
    (hsame : c'.unfinished = c.unfinished) : Accounted events c' := by
  rw [Accounted, hsame]
  exact h

theorem Accounted.concat {events : List (Event σ)} {c c' : ChainCall σ} (h : Accounted events c)
    {e : Event σ} (hnames : e.panic? = none →
      (e.over?.toList ++ c'.unfinished).Perm (c.unfinished ++ e.begun?.toList.map (·.name))) :
    Accounted (events ++ [e]) c' := by
  intro hnone
  have hbefore := h fun e' he' => hnone e' (List.mem_append_left [e] he')
  have hlast := hnames (hnone e (List.mem_append_right events List.mem_cons_self))
  have hsingle : ∀ {α : Type} (f : Event σ → Option α), [e].filterMap f = (f e).toList := by
    intro α f
    rw [Progress.shown_cons, List.filterMap_nil, List.append_nil]
  rw [List.filterMap_append, List.filterMap_append, hsingle, hsingle, List.map_append,
    List.append_assoc]
  refine (hlast.append_left _).trans ?_
  rw [← List.append_assoc]
  exact hbefore.append_right _

/-- The lock is with the thread that exits, one that leaves has found the chain empty, and what was
taken off the chain is accounted for. -/
structure Sound (t : Teardown σ) (s : SharedTeardown σ) : Prop where
  locked : ∀ i, (s.threads i).exits = true ↔ s.exiting = some i
  newestFirst : NewestFirst t.waiting (s.log.map (·.2)) s.waiting
  seen : ∀ i, (s.threads i).leaves = true → SawEmpty t s.log i
  exited : ∀ i x, s.exited = some (i, x) → (s.threads i).leaves = true
  accounted : ∀ i, Accounted (eventsOf s.log i) (s.threads i)

namespace Sound

theorem start (t : Teardown σ) (w : σ) : Sound t (SharedTeardown.start t w) where
  locked := by simp [SharedTeardown.start, ChainCall.exits]
  newestFirst := .nil t.waiting
  seen := by simp [SharedTeardown.start, ChainCall.leaves]
  exited := by simp [SharedTeardown.start]
  accounted := fun _ _ => .nil

/-- The lock after a thread has gone elsewhere: the thread took it, gave it back or neither. -/
theorem locked_put (h : Sound t s) {c : ChainCall σ} {exiting : Option Nat}
    (hown : c.exits = true ↔ exiting = some i)
    (hothers : ∀ j, j ≠ i → (exiting = some j ↔ s.exiting = some j)) (j : Nat) :
    (Function.update s.threads i c j).exits = true ↔ exiting = some j := by
  by_cases hji : j = i
  · subst hji
    rw [Function.update_self]
    exact hown
  · rw [Function.update_of_ne hji, h.locked j, hothers j hji]

theorem leaves_put {c : ChainCall σ} {j : Nat} (hi : c.leaves = false)
    (h : (Function.update s.threads i c j).leaves = true) :
    j ≠ i ∧ (s.threads j).leaves = true := by
  by_cases hji : j = i
  · subst hji
    rw [Function.update_self, hi] at h
    cases h
  · rw [Function.update_of_ne hji] at h
    exact ⟨hji, h⟩

theorem accounted_put (h : Sound t s) {c : ChainCall σ}
    (hsame : c.unfinished = (s.threads i).unfinished) (j : Nat) :
    Accounted (eventsOf s.log j) (Function.update s.threads i c j) := by
  by_cases hji : j = i
  · subst hji
    rw [Function.update_self]
    exact (h.accounted j).idle hsame
  · rw [Function.update_of_ne hji]
    exact h.accounted j

theorem accounted_concat (h : Sound t s) {c : ChainCall σ} {e : Event σ}
    (hnames : e.panic? = none → (e.over?.toList ++ c.unfinished).Perm
      ((s.threads i).unfinished ++ e.begun?.toList.map (·.name))) (j : Nat) :
    Accounted (eventsOf (s.log ++ [(i, e)]) j) (Function.update s.threads i c j) := by
  by_cases hji : j = i
  · subst hji
    rw [Function.update_self, eventsOf_self]
    exact (h.accounted j).concat hnames
  · rw [Function.update_of_ne hji, eventsOf_other s.log hji]
    exact h.accounted j

theorem newestFirst_log (h : Sound t s) {e : Event σ} {last : List (Action σ)}
    (hstep : NewestFirst s.waiting [e] last) :
    NewestFirst t.waiting ((s.log ++ [(i, e)]).map (·.2)) last := by
  rw [List.map_append]
  exact h.newestFirst.append hstep

theorem endRun (h : Sound t s) (hexited : s.exited = none) {exit : Option Ending}
    {p : Progress σ} {e : Event σ} {ended : Ended σ}
    (hthread : s.threads i = .running exit p.failed p.current p.outer)
    (hwaiting : p.waiting = s.waiting) (hstep : Progress.Stepped p e (.inl ended)) :
    Sound t ({ s with log := s.log ++ [(i, e)] }.endRun i exit ended) := by
  have hnone : ∀ j x, s.exited ≠ some (j, x) := fun j x hx => by cases hexited.symm.trans hx
  have hlog := h.newestFirst_log (i := i) (hwaiting ▸ hstep.newestFirst)
  have hlocked := h.locked i
  rw [hthread] at hlocked
  have hseen : ∀ c : ChainCall σ, c.leaves = false → ∀ j,
      (Function.update s.threads i c j).leaves = true → SawEmpty t (s.log ++ [(i, e)]) j := by
    intro c hc j hj
    obtain ⟨hji, hj⟩ := leaves_put hc hj
    exact (h.seen j hj).later (Ne.symm hji) e
  have haccounted : ∀ c : ChainCall σ, c.unfinished = [] → ∀ j,
      Accounted (eventsOf (s.log ++ [(i, e)]) j) (Function.update s.threads i c j) := by
    intro c hc
    refine h.accounted_concat fun hpanic => ?_
    rw [hthread, hc]
    cases hstep with
    | finished hcurrent _ houter =>
        simp [ChainCall.unfinished, hcurrent, houter, Event.over?, Event.begun?]
    | panicked _ _ => cases hpanic
  cases exit with
  | none =>
      exact ⟨h.locked_put hlocked fun _ _ => Iff.rfl, hlog, hseen _ rfl,
        fun j x hx => absurd hx (hnone j x), haccounted _ rfl⟩
  | some ending =>
      cases hstep with
      | finished _ hempty _ =>
          refine ⟨h.locked_put hlocked fun _ _ => Iff.rfl, hlog, fun j hj => ?_,
            fun j x hx => absurd hx (hnone j x), haccounted _ rfl⟩
          by_cases hji : j = i
          · -- this is the moment: the run ends because nothing waits
            subst hji
            have hbefore := h.newestFirst
            rw [← hwaiting, hempty] at hbefore
            exact ⟨s.log, p.failed, [], rfl, hbefore, by simp⟩
          · have hother : Function.update s.threads i (.leaving ending) j = s.threads j :=
              Function.update_of_ne hji _ _
            have hj' : (s.threads j).leaves = true := hother ▸ hj
            exact (h.seen j hj').later (Ne.symm hji) _
      | panicked _ _ =>
          have hexiting : s.exiting = some i := hlocked.mp rfl
          -- the thread had the lock, so no other one exits
          have hreleased : ∀ j, (Function.update s.threads i .outside j).exits = true ↔
              (none : Option Nat) = some j :=
            h.locked_put (by simp [ChainCall.exits]) fun j hj => by simp [hexiting, Ne.symm hj]
          exact ⟨hreleased, hlog, hseen _ rfl, fun j x hx => absurd hx (hnone j x),
            haccounted _ rfl⟩

theorem step (h : Sound t s) (hexited : s.exited = none) (hstep : Stepped s s') : Sound t s' := by
  have hnone : ∀ i x, s.exited = some (i, x) → (s'.threads i).leaves = true := by
    intro i x hx
    cases hexited.symm.trans hx
  cases hstep with
  | stayed => exact h
  | @pushed i a houtside =>
      have hseen : ∀ j, (s.threads j).leaves = true →
          SawEmpty t (s.log ++ [(i, .pushed a)]) j := by
        intro j hj
        have hne : i ≠ j := by
          rintro rfl
          rw [houtside] at hj
          cases hj
        exact (h.seen j hj).later hne _
      have haccounted : ∀ j, Accounted (eventsOf (s.log ++ [(i, .pushed a)]) j) (s.threads j) := by
        intro j
        have hconcat := h.accounted_concat (i := i) (c := s.threads i) (e := .pushed a)
          (fun _ => by simp [Event.over?, Event.begun?]) j
        rwa [Function.update_eq_self] at hconcat
      exact ⟨h.locked, h.newestFirst_log (.pushed (.nil _)), hseen, hnone, haccounted⟩
  | @begun i c houtside hexits hidle hleaves =>
      have hlocked := h.locked i
      rw [houtside] at hlocked
      have hown : c.exits = true ↔ s.exiting = some i := by
        rw [hexits]
        exact hlocked
      have hsame : c.unfinished = (s.threads i).unfinished := by
        rw [hidle, houtside]
        rfl
      exact ⟨h.locked_put hown fun _ _ => Iff.rfl, h.newestFirst,
        fun j hj => h.seen j (leaves_put hleaves hj).2, hnone, h.accounted_put hsame⟩
  | @locked i e hthread hfree =>
      let c : ChainCall σ := .running (some e) 0 none []
      have hsame : c.unfinished = (s.threads i).unfinished := by
        rw [hthread]
        rfl
      -- nobody has had the lock, so no other thread exits
      have hlocked : ∀ j, (Function.update s.threads i c j).exits = true ↔ some i = some j :=
        h.locked_put ⟨fun _ => rfl, fun _ => rfl⟩ fun j hj => by simp [hfree, Ne.symm hj]
      exact ⟨hlocked, h.newestFirst, fun j hj => h.seen j (leaves_put (c := c) rfl hj).2, hnone,
        h.accounted_put hsame⟩
  | @carried i exit p q e hthread hwaiting hstep =>
      let c : ChainCall σ := .running exit q.failed q.current q.outer
      have hlocked := h.locked i
      rw [hthread] at hlocked
      have hown : c.exits = true ↔ s.exiting = some i := by
        cases exit with
        | none => exact hlocked
        | some ending => exact hlocked
      have hseen : ∀ j, (Function.update s.threads i c j).leaves = true →
          SawEmpty t (s.log ++ [(i, e)]) j := by
        intro j hj
        obtain ⟨hji, hj⟩ := leaves_put (c := c) rfl hj
        exact (h.seen j hj).later (Ne.symm hji) e
      have hnames : (e.over?.toList ++ c.unfinished).Perm
          ((s.threads i).unfinished ++ e.begun?.toList.map (·.name)) := by
        rw [hthread]
        exact hstep.names
      exact ⟨h.locked_put hown fun _ _ => Iff.rfl,
        h.newestFirst_log (hwaiting ▸ hstep.newestFirst), hseen, hnone,
        h.accounted_concat fun _ => hnames⟩
  | ended hthread hwaiting hstep => exact h.endRun hexited hthread hwaiting hstep
  | @left i e x hthread =>
      have hleaves : (s.threads i).leaves = true := by
        rw [hthread]
        rfl
      refine ⟨h.locked, h.newestFirst, h.seen, fun j y hy => ?_, h.accounted⟩
      obtain ⟨rfl, -⟩ := Prod.mk.inj (Option.some.inj hy)
      exact hleaves

theorem move (h : Sound t s) (m : ChainMove σ) : Sound t (s.move m) := by
  cases hexited : s.exited with
  | none => exact h.step hexited (stepped s m)
  | some x =>
      have hstays : s.move m = s := by simp only [SharedTeardown.move, hexited]
      rw [hstays]
      exact h

theorem after (t : Teardown σ) (w : σ) (moves : List (ChainMove σ)) :
    Sound t ((SharedTeardown.start t w).after moves) :=
  after_induction (fun _ m h => h.move m) (.start t w) moves

end Sound

/-- However threads push, run and exit, when one of them ends the process it has found the chain
empty, and a thread that has taken off an action which is not over is in a plain run. All that the
others have taken off has come to its end, unless something of theirs has panicked. -/
theorem exits_wait_for_exits (t : Teardown σ) (w : σ) (moves : List (ChainMove σ)) (i : Nat)
    (x : Exit σ) (hexited : ((start t w).after moves).exited = some (i, x)) :
    let s := (start t w).after moves
    SawEmpty t s.log i ∧
    ∀ j, (∃ failed current outer, s.threads j = .running none failed current outer) ∨
      (s.threads j).unfinished = [] ∧ ((∀ e ∈ eventsOf s.log j, e.panic? = none) →
        ((eventsOf s.log j).filterMap Event.over?).Perm
          (((eventsOf s.log j).filterMap Event.begun?).map (·.name))) := by
  intro s
  have hsound := Sound.after t w moves
  have hleaves : (s.threads i).leaves = true := hsound.exited i x hexited
  have hexiting : s.exiting = some i := (hsound.locked i).mp (ChainCall.exits_of_leaves hleaves)
  refine ⟨hsound.seen i hleaves, fun j => ?_⟩
  have hfinished : (s.threads j).unfinished = [] → (s.threads j).unfinished = [] ∧
      ((∀ e ∈ eventsOf s.log j, e.panic? = none) →
        ((eventsOf s.log j).filterMap Event.over?).Perm
          (((eventsOf s.log j).filterMap Event.begun?).map (·.name))) := by
    intro hnil
    refine ⟨hnil, fun hpanic => ?_⟩
    have haccounted := hsound.accounted j hpanic
    rwa [hnil, List.append_nil] at haccounted
  cases hthread : s.threads j with
  | outside | locking | leaving =>
      rw [hthread] at hfinished
      exact .inr (hfinished rfl)
  | running exit failed current outer =>
      cases exit with
      | none => exact .inl ⟨failed, current, outer, rfl⟩
      | some ending =>
          -- two threads that exit would both have the lock
          have hother : s.exiting = some j := (hsound.locked j).mp (by rw [hthread]; rfl)
          obtain rfl := Option.some.inj (hexiting.symm.trans hother)
          rw [hthread] at hleaves
          cases hleaves

/-- One action, which has something to do before it ends. -/
private def unhurried : Teardown Nat := ⟨[⟨"close", .act (· + 1) (.finish fun w => (.ok (), w))⟩]⟩

private def cutShort : List (ChainMove Nat) :=
  [.run 1, .go 1, .go 1, .exit 2 ⟨0, ""⟩, .go 2, .go 2, .go 2]

/-- An exit finds the chain empty and ends the process although the action that another thread has
taken off is at work. -/
theorem exit_cuts_run_short :
    ((start unhurried 0).after cutShort).exited = some (2, ⟨0, "", 1⟩) ∧
      (((start unhurried 0).after cutShort).threads 1).unfinished = ["close"] ∧
      ∃ failed current outer, ((start unhurried 0).after cutShort).threads 1 =
        .running none failed current outer := by
  have hexited : ((start unhurried 0).after cutShort).exited = some (2, ⟨0, "", 1⟩) := rfl
  obtain ⟨-, hothers⟩ := exits_wait_for_exits unhurried 0 cutShort 2 _ hexited
  refine ⟨hexited, rfl, ?_⟩
  rcases hothers 1 with hplain | ⟨hnil, -⟩
  · exact hplain
  · cases hnil

end SharedTeardown

end LiveConfig
