import LiveConfig.Proofs.Store.Shared
/-!
Calls of a shared store without steps of other threads in between.

Such a load comes to what a load of the store comes to. Where the callbacks are scripts, which may
load the store themselves, such a tick comes to what a tick of the store comes to.
-/

set_option autoImplicit false

namespace LiveConfig

variable {V : Vocabulary} {σ α : Type}

def CallStage.afterLoad (ticks : Bool) : Outcome LoadError Unit → CallStage V
  | .ok () => installed
  | .error e => if ticks then refused e else leaving (.loaded (.error e))
  | .panic message => leaving (.panicked ticks message)

namespace SharedStore

variable {l : Loader V σ} {s : SharedStore V σ} {i n : Nat} {ticks : Bool} {taken : ReloadLock}
  {outer : List (StoreCall V)}

/-! ### Loads -/

theorem Gets.revise {c : StoreCall V} {version : Nat} {m : Settings} {w : World V σ}
    {result : Except Panic Settings} (hcalls : s.calls i = c :: outer)
    (hstage : c.stage = .revising version m)
    (hrevised : l.revised s.world.store.registry.revision m s.world = (result, w)) :
    Gets l s i w ({ c with stage := .afterRevision version c.ticks result } :: outer) := by
  refine ⟨s.move l (.go i), .single _ (by simp [StoreMove.thread?]), ?_⟩
  simp [move, go, hcalls, hstage, SharedStore.revise, put, hrevised]

theorem Gets.load (hcalls : s.calls i = ⟨n, ticks, .reading⟩ :: outer) :
    Gets l s i (l.load s.world).2 (⟨n, ticks, .afterLoad ticks (l.load s.world).1⟩ :: outer) := by
  have hread := Gets.advance (l := l) hcalls rfl
  rw [l.load_eq]
  cases hcontent : loadContent l.environment s.world.store.path
      (l.read s.world.outside s.world.store.path) with
  | error e =>
      simp only [CallStage.advance, hcontent] at hread
      exact hread
  | ok m =>
      simp only [CallStage.advance, hcontent] at hread
      rcases hrevised : l.revised s.world.store.registry.revision m s.world with ⟨result, w⟩
      simp only [hrevised]
      cases result with
      | error p =>
          refine hread.trans fun s₁ hworld _ hcalls₁ => ?_
          rw [← hworld] at hrevised
          exact .revise hcalls₁ rfl hrevised
      | ok m' =>
          refine hread.trans fun s₁ hworld _ hcalls₁ => ?_
          rw [← hworld] at hrevised
          refine Gets.trans (.revise hcalls₁ rfl hrevised) fun s₂ hworld₂ _ hcalls₂ => ?_
          refine ⟨s₂.move l (.go i), .single _ (by simp [StoreMove.thread?]), ?_⟩
          simp [move, go, hcalls₂, hworld₂, install, put, CallStage.afterLoad,
            CallStage.afterRevision]

theorem answers_load (l : Loader V σ) (hfree : s.isFree i = true)
    (htake : s.lock.take? i = some taken) :
    Answers l s i (.loaded (l.load s.world).1) (l.load s.world).2 := by
  refine answers_of_gets false hfree htake fun s₁ hworld _ hcalls => ?_
  have hload := Gets.load (l := l) hcalls
  rw [hworld] at hload
  cases hresult : (l.load s.world).1 with
  | error e =>
      rw [hresult] at hload
      exact hload
  | panic message =>
      rw [hresult] at hload
      exact hload
  | ok _ =>
      rw [hresult] at hload
      refine hload.trans fun s₂ hworld₂ _ hcalls₂ => ?_
      have hleave := Gets.advance (l := l) hcalls₂ rfl
      rw [hworld₂] at hleave
      exact hleave

/-! ### Callbacks -/

/-- A callback that is a script does on a thread what the script does. -/
theorem Gets.script (l : Loader V σ) (script : Script V σ α) (hfree : s.isFree i = true)
    (htake : s.lock.take? i = some taken) :
    Gets l s i (script.run l s.world).2 (s.calls i) := by
  induction script generalizing s with
  | done result => exact .refl s i
  | look next ih => exact ih s.world hfree htake
  | change outside next ih =>
      obtain ⟨s', hmoves, hgets⟩ := ih (s := s.move l (.change outside)) hfree htake
      exact ⟨s', .trans (.single _ (by simp [StoreMove.thread?])) hmoves, hgets⟩
  | register r next ih =>
      obtain ⟨s', hmoves, hgets⟩ := ih (s := s.move l (.register r)) hfree htake
      exact ⟨s', .trans (.single _ (by simp [StoreMove.thread?])) hmoves, hgets⟩
  | load next ih =>
      refine (answers_load l hfree htake).gets.trans fun s₁ hworld hlock hcalls => ?_
      have hrest := ih (l.load s.world).1 (s := s₁) (by rw [isFree, hcalls]; exact hfree)
        (by rw [hlock]; exact htake)
      rw [hworld, hcalls] at hrest
      exact hrest

theorem Gets.callback (l : Loader V σ) (script : Script V σ α) {c : StoreCall V}
    (hcalls : s.calls i = c :: outer) (hcallback : c.stage.callback = true)
    (htake : s.lock.take? i = some taken) (ended : CallbackEnd) :
    Gets l s i (script.run l s.world).2
      ({ c with stage := c.stage.afterCallback ended } :: outer) := by
  have hfree : s.isFree i = true := by simp [isFree, hcalls, hcallback]
  refine (Gets.script l script hfree htake).trans fun s₁ hworld _ hcalls₁ => ?_
  rw [← hworld]
  exact .finish (hcalls₁.trans hcalls) ended

/-! ### Ticks -/

section Ticks

variable (p : Scripts V σ) {jobs : List (TickJob V)} {failed : Nat}

/-- Where a tick stands after an answer that it waited for. -/
def afterAnswer {β : Type} (next : β → CallStage V) : Except Panic β → CallStage V
  | .ok answer => next answer
  | .error panic => .leaving (.ticked (.error panic))

theorem afterAnswer_map {β γ : Type} (next : γ → CallStage V) (f : β → γ) (r : Except Panic β) :
    afterAnswer next (r.map f) = afterAnswer (next ∘ f) r := by
  cases r <;> rfl

theorem Gets.report {e : StoreError} (htake : s.lock.take? i = some taken)
    (hcalls : s.calls i = ⟨n, true, .reporting e jobs failed⟩ :: outer) :
    Gets p.toLoader s i (p.host.report e s.world).2
      (⟨n, true, afterAnswer (fun _ => .running jobs failed) (p.host.report e s.world).1⟩ ::
        outer) := by
  have hcallback := Gets.callback p.toLoader (p.report e) hcalls rfl htake
  rw [p.run_report] at hcallback
  cases (p.host.report e s.world).1 with
  | ok _ => exact hcallback .ok
  | error panic => exact hcallback (.panicked panic.message)

theorem Gets.job {job : TickJob V} (htake : s.lock.take? i = some taken)
    (hcalls : s.calls i = ⟨n, true, .calling job jobs failed⟩ :: outer) :
    Gets p.toLoader s i (p.host.runJob job s.world).2
      (⟨n, true, afterAnswer (fun b => .running jobs (failed + b.toNat))
        (p.host.runJob job s.world).1⟩ :: outer) := by
  cases job with
  | hook k =>
      have hhook : p.host.hook k s.world = (p.hook k).run p.toLoader s.world := rfl
      have hcallback := Gets.callback p.toLoader (p.hook k) hcalls rfl htake
      simp only [Host.runJob, hhook, afterAnswer_map]
      cases ((p.hook k).run p.toLoader s.world).1 with
      | ok _ => exact hcallback .ok
      | error panic => exact hcallback (.panicked panic.message)
  | update u =>
      have hcallback := Gets.callback p.toLoader (p.update u) hcalls rfl htake
      have hupdate : p.host.update u s.world = (p.update u).run p.toLoader s.world := rfl
      rw [Host.runJob, Host.runUpdater, hupdate]
      rcases hrun : (p.update u).run p.toLoader s.world with ⟨ended, w⟩
      rw [hrun] at hcallback
      cases ended with
      | ok _ => exact hcallback .ok
      | panic message => exact hcallback (.panicked message)
      | error reason =>
          refine (hcallback (.failed (p.nameOf u w) reason)).trans fun s₁ hworld hlock hcalls₁ => ?_
          have hreport := Gets.report p (s := s₁) (by rw [hlock]; exact htake) hcalls₁
          rw [hworld] at hreport
          simp only [afterAnswer_map]
          exact hreport

theorem Gets.allJobs (htake : s.lock.take? i = some taken)
    (hcalls : s.calls i = ⟨n, true, .running jobs failed⟩ :: outer) :
    Gets p.toLoader s i (p.host.runJobs jobs s.world).2
      (⟨n, true, .leaving (.ticked ((p.host.runJobs jobs s.world).1.map (· + failed)))⟩ ::
        outer) := by
  have hstep := Gets.advance (l := p.toLoader) hcalls rfl
  induction jobs generalizing s failed with
  | nil => simpa [CallStage.advance, Host.runJobs, Except.map] using hstep
  | cons job rest ih =>
      refine hstep.trans fun s₁ hworld hlock hcalls₁ => ?_
      have hjob := Gets.job p (s := s₁) (by rw [hlock]; exact htake) hcalls₁
      rw [hworld] at hjob
      rw [Host.runJobs]
      rcases hanswer : p.host.runJob job s.world with ⟨answer, w⟩
      rw [hanswer] at hjob
      cases answer with
      | error panic => exact hjob
      | ok b =>
          refine hjob.trans fun s₂ hworld₂ hlock₂ hcalls₂ => ?_
          have hrest := ih (s := s₂) (by rw [hlock₂, hlock]; exact htake) hcalls₂
            (.advance hcalls₂ rfl)
          rw [hworld₂] at hrest
          simpa only [Ticking.map_add_map, Nat.add_comm failed] using hrest

/-- A tick on its own answers as the store does. -/
theorem answers_reload (hfree : s.isFree i = true) (htake : s.lock.take? i = some taken) :
    Answers p.toLoader s i (.ticked (p.host.reload s.world).1) (p.host.reload s.world).2 := by
  -- the callbacks of the tick may load, for which the thread takes the lock it has once more
  obtain ⟨again, hagain, -⟩ := ReloadLock.take?_again htake
  refine answers_of_gets true hfree htake fun s₁ hworld hlock hcalls => ?_
  have hload := Gets.load (l := p.toLoader) hcalls
  have hhost : p.host.load s.world = p.toLoader.load s.world := rfl
  rw [hworld] at hload
  rw [Host.reload, hhost]
  rcases hloaded : p.toLoader.load s.world with ⟨loaded, w⟩
  rw [hloaded] at hload
  cases loaded with
  | panic message => exact hload
  | error e =>
      refine hload.trans fun s₂ hworld₂ hlock₂ hcalls₂ => ?_
      have htake₂ : s₂.lock.take? i = some again := by
        rw [hlock₂, hlock]
        exact hagain
      have hcallback := Gets.callback p.toLoader (p.report (.load e)) hcalls₂ rfl htake₂
      rw [p.run_report, hworld₂] at hcallback
      rcases hreported : p.host.report (.load e) w with ⟨reported, w'⟩
      rw [hreported] at hcallback
      simp only [hreported]
      cases reported with
      | ok _ => exact hcallback .ok
      | error panic => exact hcallback (.panicked panic.message)
  | ok _ =>
      refine hload.trans fun s₂ hworld₂ hlock₂ hcalls₂ => ?_
      refine (Gets.advance (l := p.toLoader) hcalls₂ rfl).trans
        fun s₃ hworld₃ hlock₃ hcalls₃ => ?_
      have htake₃ : s₃.lock.take? i = some again := by
        rw [hlock₃, hlock₂, hlock]
        exact hagain
      have hjobs := Gets.allJobs p htake₃ hcalls₃
      rw [hworld₃, hworld₂] at hjobs
      simp only [Host.runRegistered_eq]
      have hzero : (p.host.runJobs w.store.registry.jobs w).1.map (· + 0) =
          (p.host.runJobs w.store.registry.jobs w).1 := by
        cases (p.host.runJobs w.store.registry.jobs w).1 <;> rfl
      rw [← hzero]
      exact hjobs

end Ticks

end SharedStore

end LiveConfig
