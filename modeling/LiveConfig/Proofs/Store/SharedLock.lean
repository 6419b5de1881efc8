import LiveConfig.Proofs.Store.Shared
import Mathlib.Data.List.Basic
/-!
The steps of a shared store, and its lock.

The lock counts the calls of one thread that have taken it, the callbacks of outer calls among them.
So the calls that have the lock are all on one thread, and each but the innermost waits for a
callback.
-/

set_option autoImplicit false

namespace LiveConfig

variable {V : Vocabulary} {σ : Type}

namespace ReloadLock

/-- How often a thread has taken the lock without giving it back. -/
def count (i : Nat) : ReloadLock → Nat
  | free => 0
  | held owner again => if owner = i then again + 1 else 0

variable {lock taken : ReloadLock} {i j : Nat}

theorem count_take? (h : lock.take? i = some taken) :
    taken.count i = lock.count i + 1 ∧ ∀ j, j ≠ i → taken.count j = lock.count j := by
  cases lock with
  | free =>
      obtain rfl := Option.some.inj h
      exact ⟨if_pos rfl, fun j hj => if_neg hj.symm⟩
  | held owner again =>
      simp only [take?, Option.ite_none_right_eq_some] at h
      obtain ⟨rfl, hheld⟩ := h
      obtain rfl := Option.some.inj hheld
      simp only [count, if_true, true_and]
      exact fun j hj => by simp [hj.symm]

theorem count_giveBack (h : 0 < lock.count i) :
    lock.giveBack.count i + 1 = lock.count i ∧
      ∀ j, j ≠ i → lock.giveBack.count j = lock.count j := by
  cases lock with
  | free => cases h
  | held owner again =>
      obtain rfl : owner = i := by
        by_contra hne
        simp [count, hne] at h
      cases again with
      | zero => exact ⟨by simp [count, giveBack], fun j hj => by simp [count, giveBack, hj.symm]⟩
      | succ again =>
          exact ⟨by simp [count, giveBack], fun j hj => by simp [count, giveBack, hj.symm]⟩

theorem eq_of_count_pos (hi : 0 < lock.count i) (hj : 0 < lock.count j) : i = j := by
  cases lock with
  | free => cases hi
  | held owner again =>
      simp only [count] at hi hj
      split at hi
      · split at hj
        · omega
        · omega
      · omega

end ReloadLock

/-! ### Steps -/

/-- How a call goes on, by itself or after a callback. -/
inductive CallStage.Onward (l : Loader V σ) (w : World V σ) (version : Nat) :
    CallStage V → CallStage V → Prop
  | read {m : Settings} :
      loadContent l.environment w.store.path (l.read w.outside w.store.path) = .ok m →
      Onward l w version .reading (.revising version m)
  | revised {read : Nat} {m m' : Settings} :
      (∀ w', (l.revised w.store.registry.revision m w').1 = .ok m') →
      Onward l w version (.revising read m) (.installing read m')
  | dispatched {stage next : CallStage V} : stage.dispatches = true → next.dispatches = true →
      Onward l w version stage next
  | refused {e : LoadError} : Onward l w version .reading (.refused e)
  | left {stage : CallStage V} {result : CallResult} : stage.inside = true →
      Onward l w version stage (.leaving result)
  | stayed {stage : CallStage V} : Onward l w version stage stage

namespace CallStage

variable {l : Loader V σ} {w : World V σ} {version : Nat}

theorem onward_advance (ticks : Bool) (stage : CallStage V) :
    Onward l w version stage (stage.advance l w version ticks) := by
  cases stage with
  | reading =>
      simp only [advance]
      split
      · rename_i hread
        exact .read hread
      · split
        · exact .refused
        · exact .left rfl
  | installed =>
      simp only [advance]
      split
      · exact .dispatched rfl rfl
      · exact .left rfl
  | running jobs failed =>
      cases jobs with
      | nil => exact .left rfl
      | cons job jobs => exact .dispatched rfl rfl
  | waiting | revising | installing | calling | reporting | refused | leaving => exact .stayed

theorem onward_afterCallback (ended : CallbackEnd) (stage : CallStage V) :
    Onward l w version stage (stage.afterCallback ended) := by
  cases stage with
  | calling job jobs failed =>
      cases ended with
      | ok => exact .dispatched rfl rfl
      | failed name reason => cases job <;> exact .dispatched rfl rfl
      | panicked message => exact .left rfl
  | reporting e jobs failed =>
      cases ended with
      | ok => exact .dispatched rfl rfl
      | failed name reason => exact .stayed
      | panicked message => exact .left rfl
  | refused e =>
      cases ended with
      | ok => exact .left rfl
      | failed name reason => exact .stayed
      | panicked message => exact .left rfl
  | waiting | reading | revising | installing | installed | running | leaving => exact .stayed

theorem eq_waiting {stage : CallStage V} (h : stage.inside = false) : stage = waiting := by
  cases stage with
  | waiting => rfl
  | reading | revising | installing | installed | running | calling | reporting | refused |
    leaving => cases h

theorem early_of_dispatches {stage : CallStage V} (h : stage.dispatches = true) :
    stage.early = false := by
  cases stage with
  | waiting | reading | revising | installing | refused | leaving => cases h
  | installed | running | calling | reporting => rfl

theorem early_of_callback {stage : CallStage V} (h : stage.callback = true) :
    stage.early = false := by
  cases stage with
  | waiting | reading | revising | installing | installed | running | leaving => cases h
  | calling | reporting | refused => rfl

theorem inside_of_dispatches {stage : CallStage V} (h : stage.dispatches = true) :
    stage.inside = true := by
  cases stage with
  | waiting => cases h
  | reading | revising | installing | installed | running | calling | reporting | refused |
    leaving => rfl

theorem Onward.inside_eq {stage next : CallStage V} (h : Onward l w version stage next) :
    next.inside = stage.inside := by
  cases h with
  | read | revised | refused | stayed => rfl
  | dispatched hstage hnext => rw [inside_of_dispatches hstage, inside_of_dispatches hnext]
  | left hinside => exact hinside.symm

end CallStage

namespace SharedStore

variable {l : Loader V σ} {s : SharedStore V σ}

inductive Stepped (l : Loader V σ) (s : SharedStore V σ) : SharedStore V σ → Prop
  | stayed : Stepped l s s
  | changed (outside : σ) : Stepped l s
      { s with past := s.past ++ [s.world.outside], world := { s.world with outside } }
  | registered (r : Registration V) : Stepped l s
      { s with world := { s.world with store := s.world.store.register r } }
  | called {i : Nat} (ticks : Bool) : s.isFree i = true → Stepped l s
      { s.put i (⟨s.numbers, ticks, .waiting⟩ :: s.calls i) with numbers := s.numbers + 1 }
  | taken {i : Nat} {c : StoreCall V} {outer : List (StoreCall V)} {lock : ReloadLock} :
      s.calls i = c :: outer → c.stage = .waiting → s.lock.take? i = some lock →
      Stepped l s { s.put i ({ c with stage := .reading } :: outer) with lock }
  | onward {i : Nat} {c : StoreCall V} {outer : List (StoreCall V)} {next : CallStage V} :
      s.calls i = c :: outer → c.stage.Onward l s.world s.version next →
      Stepped l s (s.put i ({ c with stage := next } :: outer))
  | looked {i : Nat} {c : StoreCall V} {outer : List (StoreCall V)} :
      s.calls i = c :: outer → c.stage.dispatches = true →
      Stepped l s { s with events := s.events ++ [.looked i c.number s.world.store.settings] }
  | installed {i version : Nat} {m : Settings} {c : StoreCall V} {outer : List (StoreCall V)} :
      s.calls i = c :: outer → c.stage = .installing version m →
      Stepped l s (s.install i c outer version m)
  | left {i : Nat} {result : CallResult} {c : StoreCall V} {outer : List (StoreCall V)} :
      s.calls i = c :: outer → c.stage = .leaving result →
      Stepped l s { s.put i outer with
        lock := s.lock.giveBack
        events := s.events ++ [.returned i c.number result] }

theorem stepped_revise (hl : l.Pure) {i version : Nat} {m : Settings} {c : StoreCall V}
    {outer : List (StoreCall V)} (hcalls : s.calls i = c :: outer)
    (hstage : c.stage = .revising version m) : Stepped l s (s.revise l i c outer version m) := by
  obtain ⟨result, hrevised⟩ := hl.revised s.world.store.registry.revision m
  have hrevise : s.revise l i c outer version m =
      s.put i ({ c with stage := .afterRevision version c.ticks result } :: outer) := by
    simp only [revise, hrevised, put]
  rw [hrevise]
  refine .onward hcalls ?_
  rw [hstage]
  cases result with
  | ok m' => exact .revised fun w => congrArg Prod.fst (hrevised w)
  | error p => exact .left rfl

theorem stepped_go (hl : l.Pure) (s : SharedStore V σ) (i : Nat) : Stepped l s (s.go l i) := by
  rw [go]
  split
  · exact .stayed
  · rename_i c outer hcalls
    split
    · rename_i hstage
      split
      · rename_i htake
        exact .taken hcalls hstage htake
      · exact .stayed
    · rename_i hstage
      exact stepped_revise hl hcalls hstage
    · rename_i hstage
      exact .installed hcalls hstage
    · rename_i hstage
      exact .left hcalls hstage
    · exact .onward hcalls (c.stage.onward_advance c.ticks)

theorem stepped (hl : l.Pure) (s : SharedStore V σ) (m : StoreMove V σ) :
    Stepped l s (s.move l m) := by
  cases m with
  | change outside => exact .changed outside
  | register r => exact .registered r
  | call i ticks =>
      rw [move]
      split
      · rename_i hfree
        exact .called ticks hfree
      · exact .stayed
  | go i => exact stepped_go hl s i
  | look i =>
      rw [move]
      split
      · exact .stayed
      · rename_i c outer hcalls
        split
        · rename_i hlooks
          exact .looked hcalls hlooks.2
        · exact .stayed
  | finish i ended =>
      rw [move]
      split
      · exact .stayed
      · rename_i c outer hcalls
        exact .onward hcalls (c.stage.onward_afterCallback ended)

/-! ### The lock -/

/-- The calls of a thread: only the innermost one can be without a callback at work, the lock counts
those that have taken it, and those made by callbacks have higher numbers. -/
structure Queued (lock : ReloadLock) (numbers i : Nat) (calls : List (StoreCall V)) : Prop where
  resting : ∀ c ∈ calls.tail, c.stage.callback = true
  counted : calls.countP (·.stage.inside) = lock.count i
  ordered : (calls.map (·.number)).Pairwise (· > ·)
  below : ∀ c ∈ calls, c.number < numbers

def Locked (s : SharedStore V σ) : Prop := ∀ i, Queued s.lock s.numbers i (s.calls i)

namespace Locked

variable {s' : SharedStore V σ} {i j : Nat} {c c' : StoreCall V}
  {calls outer : List (StoreCall V)}

theorem start (w : World V σ) : Locked (SharedStore.start w) :=
  fun _ => ⟨nofun, rfl, .nil, nofun⟩

theorem placed (h : Locked s) (hcalls : s'.calls = Function.update s.calls i calls)
    (hqueued : Queued s'.lock s'.numbers i calls)
    (hothers : ∀ j, j ≠ i → s'.lock.count j = s.lock.count j)
    (hnumbers : s.numbers ≤ s'.numbers) : Locked s' := by
  rw [Locked, hcalls]
  refine (Function.forall_update_iff s.calls _).mpr ⟨hqueued, fun j hj => ?_⟩
  obtain ⟨hresting, hcounted, hordered, hbelow⟩ := h j
  exact ⟨hresting, hcounted.trans (hothers j hj).symm, hordered,
    fun c hc => Nat.lt_of_lt_of_le (hbelow c hc) hnumbers⟩

theorem count_pos (h : Locked s) (hc : c ∈ s.calls i) (hinside : c.stage.inside = true) :
    0 < s.lock.count i := by
  rw [← (h i).counted, List.countP_pos_iff]
  exact ⟨c, hc, hinside⟩

/-- All calls that have the lock are on one thread. -/
theorem exclusive (h : Locked s) (hc : c ∈ s.calls i) (hinside : c.stage.inside = true)
    (hc' : c' ∈ s.calls j) (hinside' : c'.stage.inside = true) : i = j :=
  ReloadLock.eq_of_count_pos (h.count_pos hc hinside) (h.count_pos hc' hinside')

theorem moved (h : Locked s) {stage : CallStage V} (hcalls : s.calls i = c :: outer)
    (hinside : stage.inside = c.stage.inside) :
    Locked (s.put i ({ c with stage } :: outer)) := by
  obtain ⟨hresting, hcounted, hordered, hbelow⟩ := hcalls ▸ h i
  refine h.placed rfl ⟨hresting, ?_, hordered, ?_⟩ (fun _ _ => rfl) (Nat.le_refl _)
  · refine Eq.trans ?_ hcounted
    simp only [List.countP_cons, hinside]
  · exact List.forall_mem_cons.mpr (List.forall_mem_cons.mp hbelow)

theorem step (h : Locked s) (hstep : Stepped l s s') : Locked s' := by
  cases hstep with
  | stayed | changed | registered | looked => exact h
  | @called i ticks hfree =>
      obtain ⟨hresting, hcounted, hordered, hbelow⟩ := h i
      refine h.placed (i := i) rfl ⟨?_, ?_, ?_, ?_⟩ (fun _ _ => rfl) (Nat.le_succ _)
      · -- the call that was the innermost so far has a callback at work, which calls
        intro c hc
        cases hcalls : s.calls i with
        | nil => rw [hcalls] at hc; cases hc
        | cons top outer =>
            rw [isFree, hcalls] at hfree
            rw [hcalls] at hc hresting
            rcases List.mem_cons.mp hc with rfl | hc
            · exact hfree
            · exact hresting c hc
      · exact hcounted
      · refine List.pairwise_cons.mpr ⟨fun n hn => ?_, hordered⟩
        obtain ⟨c, hc, rfl⟩ := List.mem_map.mp hn
        exact hbelow c hc
      · exact List.forall_mem_cons.mpr
          ⟨Nat.lt_succ_self _, fun c hc => Nat.lt_succ_of_lt (hbelow c hc)⟩
  | @taken i c outer lock hcalls hstage htake =>
      obtain ⟨hresting, hcounted, hordered, hbelow⟩ := hcalls ▸ h i
      obtain ⟨hown, hothers⟩ := ReloadLock.count_take? htake
      refine h.placed (i := i) rfl ⟨hresting, ?_, hordered, ?_⟩ hothers (Nat.le_refl _)
      · rw [List.countP_cons_of_neg (by simp [hstage, CallStage.inside])] at hcounted
        rw [List.countP_cons_of_pos rfl, hcounted]
        exact hown.symm
      · exact List.forall_mem_cons.mpr (List.forall_mem_cons.mp hbelow)
  | onward hcalls hnext => exact h.moved hcalls hnext.inside_eq
  | installed hcalls hstage => exact h.moved hcalls (by rw [hstage]; rfl)
  | @left i result c outer hcalls hstage =>
      have hinside : c.stage.inside = true := by rw [hstage]; rfl
      obtain ⟨hown, hothers⟩ :=
        ReloadLock.count_giveBack (h.count_pos (hcalls ▸ List.mem_cons_self) hinside)
      obtain ⟨hresting, hcounted, hordered, hbelow⟩ := hcalls ▸ h i
      refine h.placed (i := i) rfl ⟨fun c hc => hresting c (List.mem_of_mem_tail hc), ?_,
        hordered.tail, (List.forall_mem_cons.mp hbelow).2⟩ hothers (Nat.le_refl _)
      simp only [List.countP_cons, hinside, if_true, ← hown] at hcounted
      exact Nat.succ.inj hcounted

end Locked

end SharedStore

end LiveConfig
