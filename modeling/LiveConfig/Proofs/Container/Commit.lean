import LiveConfig.Proofs.Container.Leases
import LiveConfig.Proofs.Container.Recording
/-!
The course of an update, call by call.

An update takes the lock, calls its callbacks one after the other, commits in one step and frees the
lock. Until that step the container is the one it found, so every callback sees it as it was, and an
update that does not come to the step leaves the container to the next update as it was.
-/

set_option autoImplicit false

namespace LiveConfig

variable {R C σ : Type}

/-- How far an update has come. The stages that commit are apart from those that call. -/
inductive Stage (R C : Type) where
  | waiting
  | checking
  | fetching
  | comparing (new : C)
  | resetting (new : C)
  | constructing (new : C)
  | adopting (new : C)
  | swapping (object : R) (new : C)
  | ended (result : Outcome ContainerError Decision)

namespace Stage

def calls : Stage R C → Bool
  | fetching | comparing _ | resetting _ | constructing _ => true
  | _ => false

def inside : Stage R C → Bool
  | waiting | ended _ => false
  | _ => true

/-- Whether the reset callback has had the object, or the update is over. -/
def touched : Stage R C → Bool
  | adopting _ | ended _ => true
  | _ => false

/-- Whether the update is over and has changed the container. -/
def committed : Stage R C → Bool
  | ended (.ok .reset) | ended (.ok .replace) => true
  | _ => false

theorem committed_of_inside {stage : Stage R C} (h : stage.inside = true) :
    stage.committed = false := by
  cases stage with
  | ended result => exact absurd h nofun
  | _ => rfl

theorem inside_of_calls {stage : Stage R C} (h : stage.calls = true) : stage.inside = true := by
  cases stage with
  | waiting => exact absurd h nofun
  | ended result => exact absurd h nofun
  | _ => rfl

theorem untouched_of_calls {stage : Stage R C} (h : stage.calls = true) :
    stage.touched = false := by
  cases stage with
  | adopting new => exact absurd h nofun
  | ended result => exact absurd h nofun
  | _ => rfl

theorem ended_of_committed {stage : Stage R C} (h : stage.committed = true) :
    ∃ result, stage = ended result ∧ (result = .ok .reset ∨ result = .ok .replace) := by
  cases stage with
  | ended result =>
      cases result with
      | ok d =>
          cases d with
          | keep => exact absurd h nofun
          | reset => exact ⟨_, rfl, .inl rfl⟩
          | replace => exact ⟨_, rfl, .inr rfl⟩
      | error e => exact absurd h nofun
      | panic s => exact absurd h nofun
  | _ => exact absurd h nofun

end Stage

/-- A container and its lock while an update runs. -/
structure Updating (R C σ : Type) where
  container : Container R C
  world : σ
  locked : Bool
  stage : Stage R C
  closings : List Closing

def Call.isReset : Call C → Bool
  | reset .. => true
  | _ => false

namespace Updating

def start (c : Container R C) (w : σ) : Updating R C σ := ⟨c, w, false, .waiting, []⟩

def leave (m : Updating R C σ) (result : Outcome ContainerError Decision) : Updating R C σ :=
  { m with locked := false, stage := .ended result }

/-- Goes on after a call, unless the call failed. -/
def proceed {α : Type} (m : Updating R C σ) (wrap : String → ContainerError)
    (next : α → Updating R C σ) : Outcome String α → Updating R C σ
  | .ok a => next a
  | .error e => m.leave (.error (wrap e))
  | .panic s => m.leave (.panic s)

@[simp] theorem proceed_ok {α : Type} (m : Updating R C σ) (wrap : String → ContainerError)
    (next : α → Updating R C σ) (a : α) : m.proceed wrap next (.ok a) = next a := rfl

@[simp] theorem proceed_failed {α : Type} (m : Updating R C σ) (wrap : String → ContainerError)
    (next : α → Updating R C σ) (f : CallFailure) :
    m.proceed wrap next f.outcome = m.leave (f.surfaced wrap) := by
  cases f <;> rfl

def decide (cb : Callbacks R C σ) (m : Updating R C σ) (new : C) : Decision → Updating R C σ
  | .keep => m.leave (.ok .keep)
  | .reset =>
      match cb.reset with
      | none => m.leave (.error (.missing .reset))
      | some _ => { m with stage := .resetting new }
  | .replace => { m with stage := .constructing new }

def step (cb : Callbacks R C σ) (m : Updating R C σ) : Updating R C σ :=
  match m.stage with
  | .waiting => if m.locked then m else { m with locked := true, stage := .checking }
  | .checking =>
      if m.container.isClosed then m.leave (.error .closed)
      else
        match cb.compare with
        | none => m.leave (.error (.missing .compare))
        | some _ => { m with stage := .fetching }
  | .fetching =>
      let (result, w) := cb.fetch (some m.container.view) m.world
      let m := { m with world := w }
      m.proceed .fetch (fun new => { m with stage := .comparing new }) result
  | .comparing new =>
      match cb.compare with
      | none => m.leave (.error (.missing .compare))
      | some compare =>
          let (result, w) := compare m.container.view m.container.config new m.world
          let m := { m with world := w }
          m.proceed .compare (m.decide cb new) result
  | .resetting new =>
      match cb.reset with
      | none => m.leave (.error (.missing .reset))
      | some reset =>
          let (result, object, w) :=
            reset m.container.view m.container.current.object m.container.config new m.world
          let m := { m with container := m.container.withObject object, world := w }
          m.proceed .reset (fun _ => { m with stage := .adopting new }) result
  | .constructing new =>
      let (result, w) := cb.construct (some m.container.view) new m.world
      let m := { m with world := w }
      m.proceed .construct (fun object => { m with stage := .swapping object new }) result
  | .adopting new => { m with container := m.container.install new }.leave (.ok .reset)
  | .swapping object new =>
      let (c, w, closings) :=
        Container.retire cb m.container.current (m.container.supersede object new) m.world
      { m with container := c, world := w, closings := closings }.leave (.ok .replace)
  | .ended _ => m

def after (cb : Callbacks R C σ) (m : Updating R C σ) : Nat → Updating R C σ
  | 0 => m
  | n + 1 => (m.step cb).after cb n

theorem after_ended (cb : Callbacks R C σ) {m : Updating R C σ}
    {result : Outcome ContainerError Decision} (h : m.stage = .ended result) (n : Nat) :
    m.after cb n = m := by
  induction n with
  | zero => rfl
  | succ n ih =>
      have hstay : m.step cb = m := by simp [step, h]
      rw [after, hstay, ih]

theorem after_add (cb : Callbacks R C σ) (m : Updating R C σ) (n k : Nat) :
    m.after cb (n + k) = (m.after cb n).after cb k := by
  induction n generalizing m with
  | zero => rw [Nat.zero_add, after]
  | succ n ih => rw [Nat.succ_add, after, after, ih]

def ended (s : Step R C σ (Outcome ContainerError Decision)) : Updating R C σ :=
  ⟨s.container, s.world, false, .ended s.result, s.closings⟩

/-- The steps of an update come to what the update does. -/
theorem after_six (cb : Callbacks R C σ) (c : Container R C) (w : σ) :
    (start c w).after cb 6 = ended (Container.update cb c w) := by
  have hexit := Container.exit_update cb c w
  generalize Container.update cb c w = s at hexit
  cases hexit with
  | closed hclosed => simp [after, step, start, ended, leave, hclosed]
  | noCompare hopen hcompare => simp [after, step, start, ended, leave, hopen, hcompare]
  | notFetched hopen hcompare hfetch =>
      simp [after, step, start, ended, leave, hopen, hcompare, hfetch, -CallFailure.outcome,
        -CallFailure.surfaced]
  | notCompared hopen hcompare hfetch hcall =>
      simp [after, step, start, ended, leave, hopen, hcompare, hfetch, hcall, -CallFailure.outcome,
        -CallFailure.surfaced]
  | kept hd =>
      obtain ⟨hopen, compare, w₁, hcompare, hfetch, hcall⟩ := hd
      simp [after, step, start, ended, leave, decide, hopen, hcompare, hfetch, hcall]
  | noReset hd hr =>
      obtain ⟨hopen, compare, w₁, hcompare, hfetch, hcall⟩ := hd
      simp [after, step, start, ended, leave, decide, hopen, hcompare, hfetch, hcall, hr]
  | notReset hd hr hreset =>
      obtain ⟨hopen, compare, w₁, hcompare, hfetch, hcall⟩ := hd
      simp [after, step, start, ended, leave, decide, hopen, hcompare, hfetch, hcall, hr, hreset,
        -CallFailure.outcome, -CallFailure.surfaced]
  | reset hd hr hreset =>
      obtain ⟨hopen, compare, w₁, hcompare, hfetch, hcall⟩ := hd
      simp [after, step, start, ended, leave, decide, hopen, hcompare, hfetch, hcall, hr, hreset]
  | notConstructed hd hmake =>
      obtain ⟨hopen, compare, w₁, hcompare, hfetch, hcall⟩ := hd
      simp [after, step, start, ended, leave, decide, hopen, hcompare, hfetch, hcall, hmake,
        -CallFailure.outcome, -CallFailure.surfaced]
  | replaced hd hmake =>
      obtain ⟨hopen, compare, w₁, hcompare, hfetch, hcall⟩ := hd
      simp [after, step, start, ended, leave, decide, hopen, hcompare, hfetch, hcall, hmake]

/-! ### What an update keeps until it commits -/

/-- The update has made `calls` so far, all of them in sight of the container `c` that it found,
and what it has not committed it has not changed. -/
structure Faithful (c : Container (Numbered R) C) (w : Recorded C σ) (calls : List (Call C))
    (m : Updating (Numbered R) C (Recorded C σ)) : Prop where
  lock : m.locked = m.stage.inside
  world : m.world.calls = w.calls ++ calls
  seen : ∀ call ∈ calls, call.disposes = false → call.seen? = some c.view
  before : m.stage.touched = false → m.container = c
  uncommitted : m.stage.committed = false → m.closings = [] ∧
    (∀ call ∈ calls, call.disposes = false) ∧
    ∃ o, o.number = c.current.object.number ∧ m.container = c.withObject o ∧
      ((∀ call ∈ calls, call.isReset = false) → o = c.current.object)

namespace Faithful

variable {c : Container (Numbered R) C} {w : Recorded C σ} {calls : List (Call C)}
  {m : Updating (Numbered R) C (Recorded C σ)} {cb : Callbacks R C σ}

theorem start (c : Container (Numbered R) C) (w : Recorded C σ) :
    Faithful c w [] (Updating.start c w) where
  lock := rfl
  world := (List.append_nil _).symm
  seen := nofun
  before := fun _ => rfl
  uncommitted := fun _ => ⟨rfl, nofun, c.current.object, rfl, rfl, fun _ => rfl⟩

theorem leave (h : Faithful c w calls m) (hbefore : m.stage.committed = false)
    (result : Outcome ContainerError Decision) : Faithful c w calls (m.leave result) where
  lock := rfl
  world := h.world
  seen := h.seen
  before := nofun
  uncommitted := fun _ => h.uncommitted hbefore

theorem moved (h : Faithful c w calls m) (hbefore : m.stage.touched = false)
    (hinside : m.stage.inside = true) {stage : Stage (Numbered R) C} (hnext : stage.inside = true) :
    Faithful c w calls { m with stage := stage } where
  lock := (h.lock.trans hinside).trans hnext.symm
  world := h.world
  seen := h.seen
  before := fun _ => h.before hbefore
  uncommitted := fun _ => h.uncommitted (Stage.committed_of_inside hinside)

theorem proceed {α : Type} (h : Faithful c w calls m) (hbefore : m.stage.committed = false)
    (wrap : String → ContainerError) {next : α → Updating (Numbered R) C (Recorded C σ)}
    (result : Outcome String α) (hnext : ∀ a, Faithful c w calls (next a)) :
    Faithful c w calls (m.proceed wrap next result) := by
  rcases result.failed_or_ok with ⟨f, rfl⟩ | ⟨a, rfl⟩
  · rw [proceed_failed]
    exact h.leave hbefore _
  · exact hnext a

theorem called (h : Faithful c w calls m) (call : Call C) (world : σ)
    (hseen : call.seen? = some m.container.view) (hbefore : m.stage.touched = false)
    (hclose : call.disposes = false) :
    Faithful c w (calls ++ [call]) { m with world := m.world.after call world } where
  lock := h.lock
  world := by
    change m.world.calls ++ [call] = _
    rw [h.world, List.append_assoc]
  seen := by
    rw [h.before hbefore] at hseen
    intro other hother hopen
    rcases List.mem_append.mp hother with hother | hother
    · exact h.seen other hother hopen
    · rw [List.mem_singleton.mp hother]
      exact hseen
  before := h.before
  uncommitted := by
    intro hstage
    obtain ⟨hclosings, hcalls, o, ho, hcontainer, hsame⟩ := h.uncommitted hstage
    refine ⟨hclosings, ?_, o, ho, hcontainer, fun hnone => hsame fun other hother => ?_⟩
    · intro other hother
      rcases List.mem_append.mp hother with hother | hother
      · exact hcalls other hother
      · rw [List.mem_singleton.mp hother]
        exact hclose
    · exact hnone other (List.mem_append_left _ hother)

theorem reset (h : Faithful c w calls m) (stage : Stage (Numbered R) C)
    (hstage : m.stage.touched = false) (hbefore : m.stage.committed = false)
    {o : Numbered R} (ho : o.number = m.container.current.object.number) {old new : C}
    {result : Outcome String Unit} {world : σ}
    (htouched : stage.touched = true) :
    Faithful c w
      (calls ++ [.reset m.container.view m.container.current.object.number old new result])
      { m with
        container := m.container.withObject o
        world := m.world.after
          (.reset m.container.view m.container.current.object.number old new result) world
        locked := stage.inside
        stage := stage } where
  lock := rfl
  world := by
    change m.world.calls ++ [_] = _
    rw [h.world, List.append_assoc]
  seen := by
    rw [h.before hstage]
    intro other hother hopen
    rcases List.mem_append.mp hother with hother | hother
    · exact h.seen other hother hopen
    · rw [List.mem_singleton.mp hother]
      rfl
  before := fun huntouched => by
    change stage.touched = false at huntouched
    rw [htouched] at huntouched
    exact absurd huntouched nofun
  uncommitted := by
    rw [h.before hstage] at ho ⊢
    intro _
    obtain ⟨hclosings, hcalls, -⟩ := h.uncommitted hbefore
    refine ⟨hclosings, ?_, o, ho, rfl, fun hnone => ?_⟩
    · intro other hother
      rcases List.mem_append.mp hother with hother | hother
      · exact hcalls other hother
      · rw [List.mem_singleton.mp hother]
        rfl
    · exact absurd (hnone _ (List.mem_append_right _ List.mem_cons_self)) nofun

end Faithful

theorem step_faithful {c : Container (Numbered R) C} {w : Recorded C σ} {calls : List (Call C)}
    {m : Updating (Numbered R) C (Recorded C σ)} (cb : Callbacks R C σ) (h : Faithful c w calls m) :
    ∃ calls', Faithful c w calls' (m.step cb.recorded) := by
  obtain ⟨container, world, locked, stage, closings⟩ := m
  cases stage with
  | waiting =>
      have hlock : locked = false := h.lock
      subst hlock
      refine ⟨calls, ?_⟩
      exact
        { h with
          lock := rfl
          before := fun _ => h.before rfl
          uncommitted := fun _ => h.uncommitted rfl }
  | checking =>
      refine ⟨calls, ?_⟩
      cases hclosed : container.isClosed with
      | true =>
          simp only [step, hclosed, if_true]
          exact h.leave rfl _
      | false =>
          cases hcompare : cb.recorded.compare with
          | none =>
              simp only [step, hclosed, hcompare, Bool.false_eq_true, if_false]
              exact h.leave rfl _
          | some compare =>
              simp only [step, hclosed, hcompare, Bool.false_eq_true, if_false]
              exact h.moved rfl rfl rfl
  | fetching =>
      rcases hcall : cb.recorded.fetch (some container.view) world with ⟨result, world'⟩
      have hw := (Callbacks.recorded_fetch hcall).2
      have hafter := h.called (.fetch (some container.view) result) world'.world rfl rfl rfl
      refine ⟨calls ++ [.fetch (some container.view) result], ?_⟩
      simp only [step, hcall]
      rw [hw]
      exact hafter.proceed rfl .fetch result fun new => hafter.moved rfl rfl rfl
  | comparing new =>
      cases hcompare : cb.recorded.compare with
      | none =>
          refine ⟨calls, ?_⟩
          simp only [step, hcompare]
          exact h.leave rfl _
      | some compare =>
          rcases hcall : compare container.view container.config new world with ⟨result, world'⟩
          obtain ⟨-, -, -, hw⟩ := Callbacks.recorded_compare hcompare hcall
          have hafter := h.called (.compare container.view container.config new result)
            world'.world rfl rfl rfl
          refine ⟨calls ++ [.compare container.view container.config new result], ?_⟩
          simp only [step, hcompare, hcall]
          rw [hw]
          refine hafter.proceed rfl .compare result fun d => ?_
          cases d with
          | keep => exact hafter.leave rfl _
          | reset =>
              cases hreset : cb.recorded.reset with
              | none =>
                  simp only [decide, hreset]
                  exact hafter.leave rfl _
              | some reset =>
                  simp only [decide, hreset]
                  exact hafter.moved rfl rfl rfl
          | replace => exact hafter.moved rfl rfl rfl
  | resetting new =>
      cases hreset : cb.recorded.reset with
      | none =>
          refine ⟨calls, ?_⟩
          simp only [step, hreset]
          exact h.leave rfl _
      | some reset =>
          rcases hcall : reset container.view container.current.object container.config new world
            with ⟨result, object, world'⟩
          obtain ⟨-, -, -, hnumber, hw⟩ := Callbacks.recorded_reset hreset hcall
          have hlock : locked = true := h.lock
          subst hlock
          refine ⟨calls ++ [.reset container.view container.current.object.number
            container.config new result], ?_⟩
          simp only [step, hreset, hcall]
          rw [hw]
          rcases result.failed_or_ok with ⟨f, rfl⟩ | ⟨_, rfl⟩
          · rw [proceed_failed]
            exact h.reset (.ended (f.surfaced .reset)) rfl rfl hnumber rfl
          · exact h.reset (.adopting new) rfl rfl hnumber rfl
  | constructing new =>
      rcases hcall : cb.recorded.construct (some container.view) new world with ⟨result, world'⟩
      have hw := (Callbacks.recorded_construct hcall).2.1
      have hafter := h.called
        (.construct (some container.view) new (result.map Numbered.number)) world'.world rfl rfl rfl
      refine ⟨calls ++ [.construct (some container.view) new (result.map Numbered.number)], ?_⟩
      simp only [step, hcall]
      rw [hw]
      exact hafter.proceed rfl .construct result fun object => hafter.moved rfl rfl rfl
  | adopting new =>
      exact ⟨calls, { h with lock := rfl, before := nofun, uncommitted := nofun }⟩
  | swapping object new =>
      obtain ⟨spawned, closing, hcalls, hopen, hidle⟩ :=
        Container.retire_calls cb container.current (container.supersede object new) world
      refine ⟨calls ++ .spawn container.current.object.number spawned :: closing, ?_⟩
      refine { lock := rfl, world := ?_, seen := ?_, before := nofun, uncommitted := nofun }
      · change (Container.retire cb.recorded _ _ world).2.1.calls = _
        have hbefore : world.calls = w.calls ++ calls := h.world
        rw [hcalls, hbefore, List.append_assoc]
      · intro call hcall hkept
        rcases List.mem_append.mp hcall with hcall | hcall
        · exact h.seen call hcall hkept
        -- the rest disposes of the object
        rcases List.mem_cons.mp hcall with rfl | hcall
        · exact absurd hkept nofun
        by_cases hclosed : spawned = .ok () ∧ container.current.leases = 0
        · obtain ⟨outcome, hclosing⟩ := hidle hclosed.1 hclosed.2
          rw [hclosing] at hcall
          rw [List.mem_singleton.mp hcall] at hkept
          exact absurd hkept nofun
        · rw [hopen (not_and_or.mp hclosed)] at hcall
          cases hcall
  | ended result => exact ⟨calls, h⟩

/-- So it is after any number of steps. -/
theorem after_faithful {c : Container (Numbered R) C} {w : Recorded C σ} {calls : List (Call C)}
    {m : Updating (Numbered R) C (Recorded C σ)} (cb : Callbacks R C σ) (h : Faithful c w calls m)
    (n : Nat) : ∃ calls', Faithful c w calls' (m.after cb.recorded n) := by
  induction n generalizing m calls with
  | zero => exact ⟨calls, h⟩
  | succ n ih =>
      obtain ⟨calls', hstep⟩ := step_faithful cb h
      exact ih hstep

end Updating

namespace Container

/-- An update commits in one step, after the last of its callbacks has answered, or not at all. Any
callback that runs sees the container that the update found. An update that ends without a commit
leaves that container behind, with its leases, its stamps and its lock free, and closes nothing; and
the next update runs from what is left as from any other container. -/
theorem update_commits_once (cb : Callbacks R C σ) (c : Container (Numbered R) C)
    (w : Recorded C σ) :
    let s := update cb.recorded c w
    let run := (Updating.start c w).after cb.recorded
    (s.plain = update cb c.plain w.world ∧ ∀ n, 6 ≤ n → run n = Updating.ended s) ∧
    (∀ n, (run n).stage.calls = true → (run n).container = c ∧ (run n).locked = true) ∧
    (∀ n, run n = Updating.ended s ∨ (run n).closings = [] ∧
      ∃ o, o.number = c.current.object.number ∧ (run n).container = c.withObject o) ∧
    (∃ calls, s.world.calls = w.calls ++ calls ∧
      (∀ call ∈ calls, call.disposes = false → call.seen? = some c.view) ∧
      (s.result ≠ .ok .reset → s.result ≠ .ok .replace →
        s.closings = [] ∧ (∀ call ∈ calls, call.disposes = false) ∧
        ∃ o, o.number = c.current.object.number ∧ s.container = c.withObject o ∧
          ((∀ call ∈ calls, call.isReset = false) → s.container = c))) ∧
    ∀ (next : Callbacks R C σ) (n : Nat), 6 ≤ n →
      { run 6 with stage := .waiting, closings := [] }.after next.recorded n =
        Updating.ended (update next.recorded s.container s.world) := by
  intro s run
  have hends : ∀ (next : Callbacks R C σ) (c' : Container (Numbered R) C) (w' : Recorded C σ)
      (n : Nat), 6 ≤ n → (Updating.start c' w').after next.recorded n =
        Updating.ended (update next.recorded c' w') := by
    intro next c' w' n hn
    obtain ⟨k, rfl⟩ := Nat.exists_eq_add_of_le hn
    rw [Updating.after_add, Updating.after_six]
    exact Updating.after_ended next.recorded rfl k
  have hfaithful : ∀ n, ∃ calls, Updating.Faithful c w calls (run n) :=
    Updating.after_faithful cb (.start c w)
  have hsix : run 6 = Updating.ended s := hends cb c w 6 (Nat.le_refl 6)
  refine ⟨⟨plain_update cb c w, hends cb c w⟩, ?_, ?_, ?_, ?_⟩
  · intro n hcalls
    obtain ⟨calls, h⟩ := hfaithful n
    exact ⟨h.before (Stage.untouched_of_calls hcalls), h.lock.trans (Stage.inside_of_calls hcalls)⟩
  · intro n
    cases hstage : (run n).stage.committed with
    | false =>
        obtain ⟨calls, h⟩ := hfaithful n
        obtain ⟨hclosings, -, o, ho, hcontainer, -⟩ := h.uncommitted hstage
        exact .inr ⟨hclosings, o, ho, hcontainer⟩
    | true =>
        obtain ⟨result, hended, -⟩ := Stage.ended_of_committed hstage
        have hlater : run (n + 6) = run n :=
          (Updating.after_add cb.recorded (.start c w) n 6).trans (Updating.after_ended _ hended 6)
        exact .inl (hlater.symm.trans (hends cb c w (n + 6) (Nat.le_add_left 6 n)))
  · obtain ⟨calls, h⟩ := hfaithful 6
    rw [hsix] at h
    refine ⟨calls, h.world, h.seen, fun hreset hreplace => ?_⟩
    have hstage : (Updating.ended s).stage.committed = false := by
      by_contra hcommitted
      obtain ⟨result, hended, hresult⟩ :=
        Stage.ended_of_committed (Bool.not_eq_false _ ▸ hcommitted)
      have hsame : s.result = result := Stage.ended.inj hended
      rcases hresult with rfl | rfl
      · exact hreset hsame
      · exact hreplace hsame
    obtain ⟨hclosings, hopen, o, ho, hcontainer, hsame⟩ := h.uncommitted hstage
    refine ⟨hclosings, hopen, o, ho, hcontainer, fun hnone => ?_⟩
    rw [show s.container = c.withObject o from hcontainer, hsame hnone]
    rfl
  · intro next n hn
    rw [hsix]
    exact hends next s.container s.world n hn

private def panicking : Callbacks Nat Nat Unit where
  fetch := fun _ w => (.ok 7, w)
  compare := some fun _ _ _ w => (.ok .replace, w)
  construct := fun _ _ w => (.panic "no memory", w)
  reset := none
  close := fun object w => (.ok (), object, w)
  spawn := fun _ w => (.ok (), w)

/-- The panic surfaces, and the leased object stays with its config and its leases. -/
theorem update_commits_once_panicking :
    let c : Container (Numbered Nat) Nat := (Container.fresh "pool" ⟨1, 3⟩ 3).leased
    let s := update panicking.recorded c ⟨(), []⟩
    s.result = .panic "no memory" ∧ s.container = c ∧ s.closings = [] ∧
      (s.world.calls.map Call.seen?) = [some c.view, some c.view, some c.view] := by
  intro c s
  obtain ⟨calls, hcalls, hseen, hfailed⟩ := (update_commits_once panicking c ⟨(), []⟩).2.2.2.1
  have hresult : s.result = .panic "no memory" := rfl
  obtain ⟨hclosings, hopen, o, -, -, hsame⟩ :=
    hfailed (by rw [hresult]; exact nofun) (by rw [hresult]; exact nofun)
  refine ⟨hresult, hsame fun call hcall => ?_, hclosings, rfl⟩
  rw [List.nil_append] at hcalls
  rw [← hcalls] at hcall
  have hnone : s.world.calls.all (fun call => !call.isReset) = true := rfl
  simpa using List.all_eq_true.mp hnone call hcall

end Container

end LiveConfig
