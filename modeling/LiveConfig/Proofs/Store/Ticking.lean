import LiveConfig.Proofs.Store.Registered
import LiveConfig.Proofs.Store.Ticked
/-!
A tick under the lock of its store, one call at a time.

The lock is held over the whole tick, so that all its callbacks see the same settings. The thread of
a tick can take the lock again, and so a callback may load the store. However the tick ends, the
lock is given back.
-/

set_option autoImplicit false

namespace LiveConfig

variable {V : Vocabulary} {σ : Type}

/-- A lock that the thread that has it can take again, and gives back as often as it took it. -/
inductive ReloadLock where
  | free
  | held (thread again : Nat)
deriving DecidableEq, Repr

namespace ReloadLock

/-- The lock when a thread has taken it, unless the thread has to wait. -/
def take? (thread : Nat) : ReloadLock → Option ReloadLock
  | free => some (held thread 0)
  | held owner again => if owner = thread then some (held owner (again + 1)) else none

def giveBack : ReloadLock → ReloadLock
  | free | held _ 0 => free
  | held owner (again + 1) => held owner again

variable {lock taken : ReloadLock} {thread other : Nat}

theorem giveBack_of_take? (h : lock.take? thread = some taken) : taken.giveBack = lock := by
  cases lock with
  | free =>
      obtain rfl := Option.some.inj h
      rfl
  | held owner again =>
      simp only [take?, Option.ite_none_right_eq_some] at h
      obtain ⟨-, hheld⟩ := h
      obtain rfl := Option.some.inj hheld
      rfl

theorem take?_again (h : lock.take? thread = some taken) :
    ∃ again, taken.take? thread = some again ∧ again.giveBack = taken := by
  have howner : ∃ n, taken = held thread n := by
    cases lock with
    | free => exact ⟨0, (Option.some.inj h).symm⟩
    | held owner again =>
        simp only [take?, Option.ite_none_right_eq_some] at h
        obtain ⟨rfl, hheld⟩ := h
        exact ⟨again + 1, (Option.some.inj hheld).symm⟩
  obtain ⟨n, rfl⟩ := howner
  exact ⟨held thread (n + 1), by simp [take?], rfl⟩

theorem take?_other (h : lock.take? thread = some taken) (hne : other ≠ thread) :
    taken.take? other = none := by
  cases lock with
  | free =>
      obtain rfl := Option.some.inj h
      simp [take?, Ne.symm hne]
  | held owner again =>
      simp only [take?, Option.ite_none_right_eq_some] at h
      obtain ⟨rfl, hheld⟩ := h
      obtain rfl := Option.some.inj hheld
      simp [take?, Ne.symm hne]

end ReloadLock

inductive TickStage (V : Vocabulary) where
  | waiting
  | loading
  | running (jobs : List (TickJob V)) (failed : Nat)
  | reporting (e : StoreError) (jobs : List (TickJob V)) (failed : Nat)
  | ended (result : Except Panic Nat)

def TickStage.inside : TickStage V → Bool
  | loading | running .. | reporting .. => true
  | waiting | ended _ => false

/-- A tick, with the lock of its store. -/
structure Ticking (V : Vocabulary) (σ : Type) where
  lock : ReloadLock
  world : World V σ
  stage : TickStage V

namespace Ticking

def start (lock : ReloadLock) (w : World V σ) : Ticking V σ := ⟨lock, w, .waiting⟩

def leave (s : Ticking V σ) (result : Except Panic Nat) (w : World V σ) : Ticking V σ :=
  ⟨s.lock.giveBack, w, .ended result⟩

def proceed (s : Ticking V σ) (stage : TickStage V) (w : World V σ) : Ticking V σ :=
  ⟨s.lock, w, stage⟩

def step (h : Host V σ) (thread : Nat) (s : Ticking V σ) : Ticking V σ :=
  match s.stage with
  | .waiting =>
      match s.lock.take? thread with
      | none => s
      | some lock => ⟨lock, s.world, .loading⟩
  | .loading =>
      match h.load s.world with
      | (.panic m, w) => s.leave (.error ⟨m⟩) w
      | (.error e, w) => s.proceed (.reporting (.load e) [] 1) w
      | (.ok (), w) => s.proceed (.running w.store.registry.jobs 0) w
  | .running [] failed => s.leave (.ok failed) s.world
  | .running (.hook k :: rest) failed =>
      match h.hook k s.world with
      | (.error p, w) => s.leave (.error p) w
      | (.ok (), w) => s.proceed (.running rest failed) w
  | .running (.update u :: rest) failed =>
      match h.update u s.world with
      | (.panic m, w) => s.leave (.error ⟨m⟩) w
      | (.error reason, w) =>
          s.proceed (.reporting (.update (h.nameOf u w) reason) rest (failed + 1)) w
      | (.ok (), w) => s.proceed (.running rest failed) w
  | .reporting e jobs failed =>
      match h.report e s.world with
      | (.error p, w) => s.leave (.error p) w
      | (.ok (), w) => s.proceed (.running jobs failed) w
  | .ended _ => s

def after (h : Host V σ) (thread : Nat) (s : Ticking V σ) : Nat → Ticking V σ
  | 0 => s
  | k + 1 => (s.step h thread).after h thread k

variable (h : Host V σ) {thread : Nat} {lock taken : ReloadLock}

/-- The lock is held while the tick is on its way, and is as it was before and afterwards. -/
def Locked (lock taken : ReloadLock) (s : Ticking V σ) : Prop :=
  s.lock = if s.stage.inside then taken else lock

theorem locked_leave {s : Ticking V σ} (htake : lock.take? thread = some taken)
    (hs : s.lock = taken) (result : Except Panic Nat) (w : World V σ) :
    Locked lock taken (s.leave result w) := by
  change s.lock.giveBack = lock
  rw [hs]
  exact ReloadLock.giveBack_of_take? htake

theorem locked_step {s : Ticking V σ} (htake : lock.take? thread = some taken)
    (hs : Locked lock taken s) : Locked lock taken (s.step h thread) := by
  cases hstage : s.stage with
  | waiting =>
      have hlock : s.lock = lock := by
        rw [Locked, hstage] at hs
        exact hs
      simp only [step, hstage, hlock, htake]
      rfl
  | ended result =>
      simp only [step, hstage]
      exact hs
  | loading =>
      have hlock : s.lock = taken := by
        rw [Locked, hstage] at hs
        exact hs
      simp only [step, hstage]
      split
      · exact locked_leave htake hlock _ _
      · exact hlock
      · exact hlock
  | running jobs failed =>
      have hlock : s.lock = taken := by
        rw [Locked, hstage] at hs
        exact hs
      cases jobs with
      | nil =>
          simp only [step, hstage]
          exact locked_leave htake hlock _ _
      | cons job rest =>
          cases job with
          | hook k =>
              simp only [step, hstage]
              split
              · exact locked_leave htake hlock _ _
              · exact hlock
          | update u =>
              simp only [step, hstage]
              split
              · exact locked_leave htake hlock _ _
              · exact hlock
              · exact hlock
  | reporting e jobs failed =>
      have hlock : s.lock = taken := by
        rw [Locked, hstage] at hs
        exact hs
      simp only [step, hstage]
      split
      · exact locked_leave htake hlock _ _
      · exact hlock

theorem locked_after {s : Ticking V σ} (htake : lock.take? thread = some taken)
    (hs : Locked lock taken s) (k : Nat) : Locked lock taken (s.after h thread k) := by
  induction k generalizing s with
  | zero => exact hs
  | succ k ih => exact ih (locked_step h htake hs)

def Ends (thread : Nat) (s : Ticking V σ) (result : Except Panic Nat) (w : World V σ) : Prop :=
  ∃ k, s.after h thread k = s.leave result w

theorem Ends.of_step {s s' : Ticking V σ} {result : Except Panic Nat} {w : World V σ}
    (hstep : s.step h thread = s') (hlock : s'.lock = s.lock) (hends : s'.Ends h thread result w) :
    s.Ends h thread result w := by
  obtain ⟨k, hk⟩ := hends
  refine ⟨k + 1, ?_⟩
  rw [after, hstep, hk, leave, leave, hlock]

theorem map_add_map (r : Except Panic Nat) (m n : Nat) :
    (r.map (· + m)).map (· + n) = r.map (· + (m + n)) := by
  cases r with
  | error p => rfl
  | ok k => exact congrArg Except.ok (Nat.add_assoc k m n)

theorem ends_running (jobs : List (TickJob V)) (failed : Nat) {s : Ticking V σ}
    (hs : s.stage = .running jobs failed) : s.Ends h thread
      ((h.runJobs jobs s.world).1.map (· + failed)) (h.runJobs jobs s.world).2 := by
  induction jobs generalizing s failed with
  | nil => exact ⟨1, by simp [after, step, hs, Host.runJobs, Except.map]⟩
  | cons job rest ih =>
      cases job with
      | hook k =>
          rcases hk : h.hook k s.world with ⟨ended, w⟩
          cases ended with
          | error p =>
              exact ⟨1, by simp [after, step, hs, hk, Host.runJobs, Host.runJob, Except.map]⟩
          | ok _ =>
              have hjob : h.runJob (.hook k) s.world = (.ok false, w) := by
                simp [Host.runJob, hk, Except.map]
              have hstep : s.step h thread = s.proceed (.running rest failed) w := by
                simp [step, hs, hk]
              simp only [Host.runJobs, hjob, map_add_map, Bool.toNat_false, Nat.zero_add]
              exact .of_step h hstep rfl (ih failed rfl)
      | update u =>
          rcases hu : h.update u s.world with ⟨ended, w⟩
          cases ended with
          | panic m =>
              exact ⟨1, by simp [after, step, hs, hu, Host.runJobs, Host.runJob, Host.runUpdater,
                Except.map]⟩
          | ok _ =>
              have hjob : h.runJob (.update u) s.world = (.ok false, w) := by
                simp [Host.runJob, Host.runUpdater, hu]
              have hstep : s.step h thread = s.proceed (.running rest failed) w := by
                simp [step, hs, hu]
              simp only [Host.runJobs, hjob, map_add_map, Bool.toNat_false, Nat.zero_add]
              exact .of_step h hstep rfl (ih failed rfl)
          | error reason =>
              let told : Ticking V σ :=
                s.proceed (.reporting (.update (h.nameOf u w) reason) rest (failed + 1)) w
              have hstep : s.step h thread = told := by simp [step, hs, hu, told]
              refine .of_step h hstep rfl ?_
              rcases hreport : h.report (.update (h.nameOf u w) reason) w with ⟨reported, w'⟩
              cases reported with
              | error p =>
                  exact ⟨1, by simp [after, step, told, proceed, hreport, Host.runJobs,
                    Host.runJob, Host.runUpdater, hu, Except.map]⟩
              | ok _ =>
                  have hjob : h.runJob (.update u) s.world = (.ok true, w') := by
                    simp [Host.runJob, Host.runUpdater, hu, hreport, Except.map]
                  have hnext : told.step h thread =
                      told.proceed (.running rest (failed + 1)) w' := by
                    simp [step, told, proceed, hreport]
                  simp only [Host.runJobs, hjob, map_add_map, Bool.toNat_true,
                    Nat.add_comm 1 failed]
                  exact .of_step h hnext rfl (ih (failed + 1) rfl)

theorem ends_loading {s : Ticking V σ} (hs : s.stage = .loading) :
    s.Ends h thread (h.reload s.world).1 (h.reload s.world).2 := by
  rcases hload : h.load s.world with ⟨loaded, w⟩
  cases loaded with
  | panic m => exact ⟨1, by simp [after, step, hs, hload, Host.reload]⟩
  | error e =>
      have hstep : s.step h thread = s.proceed (.reporting (.load e) [] 1) w := by
        simp [step, hs, hload]
      refine .of_step h hstep rfl ?_
      rcases hreport : h.report (.load e) w with ⟨reported, w'⟩
      cases reported with
      | error p =>
          exact ⟨1, by simp [after, step, proceed, hload, hreport, Host.reload, Except.map]⟩
      | ok _ =>
          exact ⟨2, by simp [after, step, proceed, leave, hload, hreport, Host.reload, Except.map]⟩
  | ok _ =>
      have hreload : h.reload s.world = h.runJobs w.store.registry.jobs w := by
        simp [Host.reload, hload, Host.runRegistered_eq]
      have hstep : s.step h thread = s.proceed (.running w.store.registry.jobs 0) w := by
        simp [step, hs, hload]
      have hzero : (h.runJobs w.store.registry.jobs w).1.map (· + 0) =
          (h.runJobs w.store.registry.jobs w).1 := by
        cases (h.runJobs w.store.registry.jobs w).1 <;> rfl
      rw [hreload, ← hzero]
      exact .of_step h hstep rfl (ends_running h _ 0 rfl)

/-- A tick that gets the lock comes to the end of a reload, and the lock is as before. -/
theorem ends_start (htake : lock.take? thread = some taken) (w : World V σ) :
    ∃ k, (start lock w).after h thread k = ⟨lock, (h.reload w).2, .ended (h.reload w).1⟩ := by
  have hends : Ends h thread ⟨taken, w, .loading⟩ (h.reload w).1 (h.reload w).2 :=
    ends_loading h rfl
  obtain ⟨k, hk⟩ := hends
  have hstep : (start lock w).step h thread = ⟨taken, w, .loading⟩ := by
    simp [start, step, htake]
  refine ⟨k + 1, ?_⟩
  rw [after, hstep, hk, leave, ReloadLock.giveBack_of_take? htake]

end Ticking

namespace Host

/-- A tick, whole and in order, whatever its callbacks do to the store or to anything else. It loads
first. A load that fails is reported and nothing else is called, and a load that panics ends the
tick. Otherwise the jobs run that were registered when the load was done, each failure is reported
before the next job, and the answer counts the failures, unless a panic cuts the tick short.

What is registered stands last in its list. Where nothing but registrations changes the registry,
the next tick runs what this one has run and behind it, list by list and in order, what was
registered since the load: by the calls of this tick and by the load of the next one.

One call at a time the tick comes to the same end on any thread that gets the lock, and so does the
next tick from what it leaves. The lock is held all the while, so that no other thread can take it
and a callback can, and is as before in the end. -/
theorem reload_in_order (h : Host V σ) (w : World V (Journal V σ)) :
    let loaded := h.journaled.load w
    let ticked := h.journaled.reload w
    let reloaded := h.journaled.load ticked.2
    let later := h.journaled.reload ticked.2
    (forget loaded = h.load w.plain ∧ forget ticked = h.reload w.plain) ∧
    (∃ calls, ticked.2.calls = w.calls ++ calls ∧
      (∀ m, loaded.1 = .panic m → calls = [] ∧ ticked.1 = .error ⟨m⟩) ∧
      (∀ e, loaded.1 = .error e → ∃ ended left,
        calls = [⟨loaded.2.plain.reporting (.load e), ended, left⟩] ∧
          ticked.1 = ended.counted 1) ∧
      (loaded.1 = .ok () → h.Ticked loaded.2.store.registry.jobs calls ticked.1)) ∧
    (∀ (s : Store V) (hook : V.Hook) (updater : V.Updater) (handler : V.Handler),
      (s.addEarlyHook hook).registry =
        { s.registry with before := s.registry.before ++ [hook] } ∧
      (s.addUpdater updater).registry =
        { s.registry with updaters := s.registry.updaters ++ [updater] } ∧
      (s.addLateHook hook).registry = { s.registry with after := s.registry.after ++ [hook] } ∧
      (s.setHandler handler).registry = { s.registry with handler := some handler }) ∧
    (h.Registers → ∃ calls new more, ticked.2.calls = w.calls ++ calls ∧
      Registering loaded.2.store calls new ticked.2.store ∧
      let first := loaded.2.store.registry
      let second := reloaded.2.store.registry
      let added := new ++ more
      second = (ticked.2.store.registered more).registry ∧
      second.before = first.before ++ added.filterMap (·.early?) ∧
      second.updaters = first.updaters ++ added.filterMap (·.updater?) ∧
      second.after = first.after ++ added.filterMap (·.late?) ∧
      second.handler = (added.filterMap (·.handler?)).getLast?.or first.handler ∧
      (reloaded.1 = .ok () → ∃ again, later.2.calls = ticked.2.calls ++ again ∧
        h.Ticked second.jobs again later.1)) ∧
    ∀ (thread : Nat) (lock taken : ReloadLock), lock.take? thread = some taken →
      let run := (Ticking.start lock w).after h.journaled thread
      (∃ k, run k = ⟨lock, ticked.2, .ended ticked.1⟩) ∧
      (∃ k, (Ticking.start lock ticked.2).after h.journaled thread k =
        ⟨lock, later.2, .ended later.1⟩) ∧
      (∀ k, (run k).lock = if (run k).stage.inside then taken else lock) ∧
      (∀ other, other ≠ thread → taken.take? other = none) ∧
      ∃ again, taken.take? thread = some again ∧ again.giveBack = taken := by
  intro loaded ticked reloaded later
  refine ⟨⟨h.forget_load w, h.forget_reload w⟩, h.journaled_reload w, ?_, ?_, ?_⟩
  · intro s hook updater handler
    exact ⟨rfl, rfl, rfl, rfl⟩
  · intro hr
    obtain ⟨calls, new, hcalls, hnew⟩ := hr.reload w
    obtain ⟨more, hmore⟩ := hr.load ticked.2
    have hadded : reloaded.2.store.registry =
        (loaded.2.store.registered (new ++ more)).registry := by
      rw [hmore, Store.registered_append]
      exact Store.registry_registered more hnew.registry_eq
    refine ⟨calls, new, more, hcalls.trans (by rw [h.calls_load]), hnew, hmore, ?_, ?_, ?_, ?_, ?_⟩
    · rw [hadded, Store.before_registered]
    · rw [hadded, Store.updaters_registered]
    · rw [hadded, Store.after_registered]
    · rw [hadded, Store.handler_registered]
    · intro hok
      obtain ⟨again, hagain, -, -, hran⟩ := h.journaled_reload ticked.2
      exact ⟨again, hagain, hran hok⟩
  · intro thread lock taken htake run
    refine ⟨Ticking.ends_start h.journaled htake w, Ticking.ends_start h.journaled htake ticked.2,
      ?_, fun other hne => ReloadLock.take?_other htake hne, ReloadLock.take?_again htake⟩
    exact Ticking.locked_after h.journaled htake (s := Ticking.start lock w) rfl

private abbrev Numbers : Vocabulary := ⟨Nat, Nat, Nat, Nat⟩

/-- A revision registers itself as a hook, a hook another hook and an updater another updater. An
updater sets the handler of its number as well and fails if it is odd, and the handler of 3
panics. -/
private def restless : Host Numbers Unit where
  read := fun _ _ => .ok ByteArray.empty
  environment := fun _ => none
  revise := fun r m w => (.ok m, { w with store := w.store.addEarlyHook r })
  hook := fun k w => (.ok (), { w with store := w.store.addLateHook (k + 10) })
  update := fun u w => (if u % 2 = 0 then .ok () else .error "odd",
    { w with store := (w.store.setHandler u).addUpdater (u + 10) })
  nameOf := fun u _ => if u = 1 then "one" else "another"
  handle := fun k _ w => (if k = 3 then .error ⟨"third"⟩ else .ok (), w)
  note := fun _ w => w

private theorem registers_restless : restless.Registers where
  revise := fun r _ _ => ⟨[.early r], rfl⟩
  hook := fun k _ => ⟨[.late (k + 10)], rfl⟩
  update := fun u _ => ⟨[.handler u, .updater (u + 10)], rfl⟩
  handle := fun _ _ _ => ⟨[], rfl⟩
  note := fun _ _ => ⟨[], rfl⟩

private def stocked (updaters : List Nat) : World Numbers (Journal Numbers Unit) :=
  ⟨⟨"/conf", none, ⟨some 7, [5], updaters, [6], none⟩, none⟩, ⟨(), []⟩⟩

/-- What the revision registers runs in its own tick, what is registered after the load in the next
one only, and a handler that panics ends the tick but frees the lock. -/
theorem reload_in_order_restless :
    (∃ calls, (restless.journaled.reload (stocked [2, 1, 4])).2.calls = calls ∧
      calls.filterMap HostCall.job? =
        [.hook 5, .hook 7, .update 2, .update 1, .update 4, .hook 6] ∧
      calls.countP HostCall.failed = 1) ∧
    (let ticked := (restless.journaled.reload (stocked [2])).2
      ∃ again, (restless.journaled.reload ticked).2.calls = ticked.calls ++ again ∧
        again.filterMap HostCall.job? = [.hook 5, .hook 7, .hook 7, .update 2, .update 12,
          .hook 6, .hook 15, .hook 17, .hook 16]) ∧
    ∃ k, ((Ticking.start .free (stocked [2, 3, 1])).after restless.journaled 7 k).stage =
        .ended (.error ⟨"third"⟩) ∧
      ((Ticking.start .free (stocked [2, 3, 1])).after restless.journaled 7 k).lock = .free := by
  refine ⟨?_, ?_, ?_⟩
  · obtain ⟨-, ⟨calls, hcalls, -, -, hran⟩, -⟩ := reload_in_order restless (stocked [2, 1, 4])
    obtain ⟨hjobs, -, hcount⟩ := (hran rfl).complete 1 (by decide)
    exact ⟨calls, hcalls, hjobs, hcount.symm⟩
  · intro ticked
    obtain ⟨-, -, -, hgrown, -⟩ := reload_in_order restless (stocked [2])
    obtain ⟨calls, new, more, -, -, -, -, -, -, -, hran⟩ := hgrown registers_restless
    obtain ⟨again, hagain, hticked⟩ := hran rfl
    obtain ⟨hjobs, -, -⟩ := hticked.complete 0 (by decide)
    exact ⟨again, hagain, hjobs⟩
  · obtain ⟨-, -, -, -, hlocked⟩ := reload_in_order restless (stocked [2, 3, 1])
    obtain ⟨⟨k, hk⟩, -⟩ := hlocked 7 .free (.held 7 0) rfl
    have hresult : (restless.journaled.reload (stocked [2, 3, 1])).1 = .error ⟨"third"⟩ := by
      decide
    refine ⟨k, ?_, ?_⟩
    · exact (congrArg Ticking.stage hk).trans (congrArg TickStage.ended hresult)
    · exact congrArg Ticking.lock hk

end Host

end LiveConfig
