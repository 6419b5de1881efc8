import LiveConfig.Container.Session
import LiveConfig.Proofs.Container.Exits
import Mathlib.Data.List.Count
/-!
Recorded containers: every call of a callback leaves an entry behind.

Objects are values, so two of them may be equal without being the same. A recording therefore gives
every object that is made its number among those made, which the object keeps whatever becomes of
it, and the entries name objects by number. Recording changes nothing else: without its numbers and
entries, a recorded session takes the steps of the plain one.
-/

set_option autoImplicit false

namespace LiveConfig

variable {R C σ ρ : Type}

/-- An object with its number among those made. -/
structure Numbered (R : Type) where
  number : Nat
  object : R
deriving DecidableEq, Repr

/-- A call of a callback: what it saw of the container, what it was given and how it ended. -/
inductive Call (C : Type) where
  | fetch (seen : Option (View C)) (result : Outcome String C)
  | compare (seen : View C) (old new : C) (result : Outcome String Decision)
  | construct (seen : Option (View C)) (config : C) (result : Outcome String Nat)
  | reset (seen : View C) (object : Nat) (old new : C) (result : Outcome String Unit)
  | close (object : Nat) (outcome : Outcome String Unit)
  | spawn (object : Nat) (result : Except String Unit)

namespace Call

/-- What the call saw of the container; one that disposes of an object sees none. -/
def seen? : Call C → Option (View C)
  | fetch seen _ => seen
  | compare seen .. => some seen
  | construct seen .. => seen
  | reset seen .. => some seen
  | close .. | spawn .. => none

def makes : Call C → Bool
  | construct _ _ (.ok _) => true
  | _ => false

def closes (number : Nat) : Call C → Bool
  | close object _ => object = number
  | _ => false

def isClose : Call C → Bool
  | close .. => true
  | _ => false

def disposes : Call C → Bool
  | close .. | spawn .. => true
  | _ => false

def stranded? : Call C → Option Nat
  | spawn object (.error _) => some object
  | _ => none

end Call

/-- A world with the calls made in it, in order. -/
structure Recorded (C σ : Type) where
  world : σ
  calls : List (Call C) := []

namespace Recorded

/-- The world after one more call, which left it as `world`. -/
def after (w : Recorded C σ) (call : Call C) (world : σ) : Recorded C σ :=
  ⟨world, w.calls ++ [call]⟩

def made (w : Recorded C σ) : Nat := w.calls.countP Call.makes

def closes (w : Recorded C σ) (number : Nat) : Nat := w.calls.countP (Call.closes number)

def stranded (w : Recorded C σ) : List Nat := w.calls.filterMap Call.stranded?

@[simp] theorem after_world (w : Recorded C σ) (call : Call C) (world : σ) :
    (w.after call world).world = world := rfl

@[simp] theorem made_after (w : Recorded C σ) (call : Call C) (world : σ) :
    (w.after call world).made = w.made + call.makes.toNat := by
  cases h : call.makes <;> simp [made, after, List.countP_append, h]

@[simp] theorem closes_after (w : Recorded C σ) (call : Call C) (world : σ) (n : Nat) :
    (w.after call world).closes n = w.closes n + (call.closes n).toNat := by
  cases h : call.closes n <;> simp [closes, after, List.countP_append, h]

@[simp] theorem stranded_after (w : Recorded C σ) (call : Call C) (world : σ) :
    (w.after call world).stranded = w.stranded ++ call.stranded?.toList := by
  cases h : call.stranded? <;> simp [stranded, after, List.filterMap_append, h]

/-- From one world to the other no object was made or disposed of. -/
structure Idle (w w' : Recorded C σ) : Prop where
  made : w'.made = w.made
  stranded : w'.stranded = w.stranded
  closes : ∀ n, w'.closes n = w.closes n

theorem Idle.refl (w : Recorded C σ) : w.Idle w := ⟨rfl, rfl, fun _ => rfl⟩

theorem Idle.after {w w' : Recorded C σ} (h : w.Idle w') {call : Call C}
    (hmakes : call.makes = false) (hdisposes : call.disposes = false) (world : σ) :
    w.Idle (w'.after call world) := by
  have hcloses : ∀ n, call.closes n = false := by
    intro n
    cases call <;> first | rfl | exact absurd hdisposes nofun
  have hstranded : call.stranded? = none := by
    cases call <;> first | rfl | exact absurd hdisposes nofun
  refine ⟨?_, ?_, fun n => ?_⟩
  · simp [hmakes, h.made]
  · simp [hstranded, h.stranded]
  · simp [hcloses, h.closes]

theorem Idle.spawned (w : Recorded C σ) (number : Nat) (world : σ) :
    w.Idle (w.after (.spawn number (.ok ())) world) := by
  refine ⟨?_, ?_, fun n => ?_⟩
  · simp [Call.makes]
  · simp [Call.stranded?]
  · simp [Call.closes]

end Recorded

def Callbacks.recorded (cb : Callbacks R C σ) : Callbacks (Numbered R) C (Recorded C σ) where
  fetch := fun seen w =>
    let (result, world) := cb.fetch seen w.world
    (result, w.after (.fetch seen result) world)
  compare := cb.compare.map fun compare seen old new w =>
    let (result, world) := compare seen old new w.world
    (result, w.after (.compare seen old new result) world)
  construct := fun seen config w =>
    let (result, world) := cb.construct seen config w.world
    let number := w.made + 1
    (result.map (⟨number, ·⟩), w.after (.construct seen config (result.map fun _ => number)) world)
  reset := cb.reset.map fun reset seen o old new w =>
    let (result, object, world) := reset seen o.object old new w.world
    (result, ⟨o.number, object⟩, w.after (.reset seen o.number old new result) world)
  close := fun o w =>
    let (outcome, object, world) := cb.close o.object w.world
    (outcome, ⟨o.number, object⟩, w.after (.close o.number outcome) world)
  spawn := fun o w =>
    let (result, world) := cb.spawn o.object w.world
    (result, w.after (.spawn o.number result) world)

namespace Callbacks

variable {cb : Callbacks R C σ} {w w' : Recorded C σ}

theorem recorded_fetch {seen : Option (View C)} {r : Outcome String C}
    (h : cb.recorded.fetch seen w = (r, w')) :
    cb.fetch seen w.world = (r, w'.world) ∧ w' = w.after (.fetch seen r) w'.world := by
  cases h
  exact ⟨rfl, rfl⟩

theorem recorded_compare {compare : Comparer C (Recorded C σ)}
    (hcompare : cb.recorded.compare = some compare) {seen : View C} {old new : C}
    {r : Outcome String Decision} (h : compare seen old new w = (r, w')) :
    ∃ plain : Comparer C σ, cb.compare = some plain ∧
      plain seen old new w.world = (r, w'.world) ∧
      w' = w.after (.compare seen old new r) w'.world := by
  obtain ⟨plain, hplain, rfl⟩ := Option.map_eq_some_iff.mp hcompare
  cases h
  exact ⟨plain, hplain, rfl, rfl⟩

theorem recorded_compare_none (h : cb.recorded.compare = none) : cb.compare = none :=
  Option.map_eq_none_iff.mp h

theorem recorded_construct {seen : Option (View C)} {config : C} {r : Outcome String (Numbered R)}
    (h : cb.recorded.construct seen config w = (r, w')) :
    cb.construct seen config w.world = (r.map Numbered.object, w'.world) ∧
      w' = w.after (.construct seen config (r.map Numbered.number)) w'.world ∧
      ∀ o, r = .ok o → o.number = w.made + 1 := by
  rcases hcall : cb.construct seen config w.world with ⟨ended, world⟩
  simp only [recorded, hcall, Prod.mk.injEq] at h
  obtain ⟨rfl, rfl⟩ := h
  refine ⟨?_, ?_, ?_⟩
  · cases ended <;> rfl
  · cases ended <;> rfl
  · intro o ho
    cases ended with
    | ok object => cases ho; rfl
    | error e => cases ho
    | panic m => cases ho

theorem recorded_reset {reset : Resetter (Numbered R) C (Recorded C σ)}
    (hreset : cb.recorded.reset = some reset) {seen : View C} {o o' : Numbered R} {old new : C}
    {r : Outcome String Unit} (h : reset seen o old new w = (r, o', w')) :
    ∃ plain : Resetter R C σ, cb.reset = some plain ∧
      plain seen o.object old new w.world = (r, o'.object, w'.world) ∧ o'.number = o.number ∧
      w' = w.after (.reset seen o.number old new r) w'.world := by
  obtain ⟨plain, hplain, rfl⟩ := Option.map_eq_some_iff.mp hreset
  cases h
  exact ⟨plain, hplain, rfl, rfl, rfl⟩

theorem recorded_close (cb : Callbacks R C σ) (w : Recorded C σ) (o : Numbered R) :
    (cb.recorded.close o w).2.1.number = o.number ∧
      (cb.recorded.close o w).2.2.made = w.made ∧
      (cb.recorded.close o w).2.2.stranded = w.stranded ∧
      ∀ n, (cb.recorded.close o w).2.2.closes n = w.closes n + (decide (o.number = n)).toNat := by
  refine ⟨rfl, ?_, ?_, ?_⟩
  · simp [recorded, Call.makes]
  · simp [recorded, Call.stranded?]
  · intro n
    simp [recorded, Call.closes]

theorem recorded_spawn {o : Numbered R} {r : Except String Unit}
    (h : cb.recorded.spawn o w = (r, w')) :
    cb.spawn o.object w.world = (r, w'.world) ∧ w' = w.after (.spawn o.number r) w'.world := by
  cases h
  exact ⟨rfl, rfl⟩

theorem recorded_reset_none (h : cb.recorded.reset = none) : cb.reset = none :=
  Option.map_eq_none_iff.mp h

end Callbacks

/-! ### Forgetting the recording -/

def Slot.plain (s : Slot (Numbered R) C) : Slot R C :=
  ⟨s.object.object, s.config, s.generation, s.leases⟩

def Container.plain (c : Container (Numbered R) C) : Container R C :=
  ⟨c.name, c.current.plain, c.superseded.map Slot.plain, c.phase, c.stamps, c.stranded⟩

def Step.plain (s : Step (Numbered R) C (Recorded C σ) ρ) : Step R C σ ρ :=
  ⟨s.result, s.container.plain, s.world.world, s.closings⟩

namespace Container

variable {cb : Callbacks R C σ} {c : Container (Numbered R) C} {w : Recorded C σ}

/-- Taking a slot out of service starts a thread, which closes the object at once if nobody leases
it. -/
theorem retire_calls (cb : Callbacks R C σ) (old : Slot (Numbered R) C)
    (next : Container (Numbered R) C) (w : Recorded C σ) : ∃ spawned closing,
      (retire cb.recorded old next w).2.1.calls =
        w.calls ++ .spawn old.object.number spawned :: closing ∧
      (spawned ≠ .ok () ∨ old.leases ≠ 0 → closing = []) ∧
      (spawned = .ok () → old.leases = 0 →
        ∃ outcome, closing = [.close old.object.number outcome]) := by
  have hretired := retired cb.recorded old next w
  generalize retire cb.recorded old next w = s at hretired
  cases hretired with
  | @stranded e w₁ hspawn =>
      have hcalls := congrArg Recorded.calls (Callbacks.recorded_spawn hspawn).2
      exact ⟨.error e, [], hcalls, fun _ => rfl, nofun⟩
  | @closed w₁ hspawn hidle =>
      have hcalls := congrArg Recorded.calls (Callbacks.recorded_spawn hspawn).2
      refine ⟨.ok (), [.close old.object.number (cb.close old.object.object w₁.world).1], ?_, ?_,
        fun _ _ => ⟨_, rfl⟩⟩
      · change w₁.calls ++ [_] = _
        rw [hcalls, Recorded.after, List.append_assoc]
        rfl
      · rintro (hfailed | hleased)
        · exact absurd rfl hfailed
        · exact absurd hidle hleased
  | waiting hspawn hleased =>
      have hcalls := congrArg Recorded.calls (Callbacks.recorded_spawn hspawn).2
      exact ⟨.ok (), [], hcalls, fun _ => rfl, fun _ hidle => absurd hidle hleased⟩

private theorem plain_keep (c : Container (Numbered R) C) (old : Slot (Numbered R) C) :
    (c.keep old).plain = c.plain.keep old.plain := by
  by_cases h : old.leases = 0
  · rw [keep_idle h, keep_idle (show old.plain.leases = 0 from h)]
  · rw [keep_leased h, keep_leased (show old.plain.leases ≠ 0 from h)]
    simp [plain]

private theorem Retired.plain {old : Slot (Numbered R) C}
    {s : Container (Numbered R) C × Recorded C σ × List Closing}
    (h : Retired cb.recorded old c w s) :
    Retired cb old.plain c.plain w.world (s.1.plain, s.2.1.world, s.2.2) := by
  cases h with
  | stranded hspawn =>
      have hleft : Retired cb old.plain c.plain w.world _ :=
        .stranded (Callbacks.recorded_spawn hspawn).1
      rw [← plain_keep] at hleft
      exact hleft
  | closed hspawn hidle => exact .closed (Callbacks.recorded_spawn hspawn).1 hidle
  | waiting hspawn hleased =>
      have hwaits : Retired cb old.plain c.plain w.world _ :=
        .waiting (Callbacks.recorded_spawn hspawn).1 hleased
      rw [← plain_keep] at hwaits
      exact hwaits

private theorem Decided.plain {new : C} {d : Decision} {w' : Recorded C σ}
    (h : Decided cb.recorded c w new d w') : Decided cb c.plain w.world new d w'.world := by
  obtain ⟨hopen, compare, w₁, hcompare, hfetch, hcall⟩ := h
  obtain ⟨plain, hplain, hd, -⟩ := Callbacks.recorded_compare hcompare hcall
  exact ⟨hopen, plain, w₁.world, hplain, (Callbacks.recorded_fetch hfetch).1, hd⟩

theorem map_outcome {α β : Type} (f : CallFailure) (g : α → β) :
    (f.outcome : Outcome String α).map g = f.outcome := by
  cases f <;> rfl

/-- An update that is recorded ends as the plain one does. -/
theorem plain_update (cb : Callbacks R C σ) (c : Container (Numbered R) C) (w : Recorded C σ) :
    (update cb.recorded c w).plain = update cb c.plain w.world := by
  have hexit := exit_update cb.recorded c w
  apply Exit.eq_update
  generalize update cb.recorded c w = s at hexit
  cases hexit with
  | closed hclosed => exact .closed hclosed
  | noCompare hopen hcompare => exact .noCompare hopen (Callbacks.recorded_compare_none hcompare)
  | notFetched hopen hcompare hfetch =>
      obtain ⟨plain, hplain, -⟩ := Option.map_eq_some_iff.mp hcompare
      exact .notFetched hopen hplain (Callbacks.recorded_fetch hfetch).1
  | notCompared hopen hcompare hfetch hcall =>
      obtain ⟨plain, hplain, hd, -⟩ := Callbacks.recorded_compare hcompare hcall
      exact .notCompared hopen hplain (Callbacks.recorded_fetch hfetch).1 hd
  | kept hd => exact .kept hd.plain
  | noReset hd hr => exact .noReset hd.plain (Callbacks.recorded_reset_none hr)
  | notReset hd hr hreset =>
      obtain ⟨plain, hplain, hp, -⟩ := Callbacks.recorded_reset hr hreset
      exact .notReset hd.plain hplain hp
  | reset hd hr hreset =>
      obtain ⟨plain, hplain, hp, -⟩ := Callbacks.recorded_reset hr hreset
      exact .reset hd.plain hplain hp
  | notConstructed hd hmake =>
      have hp := (Callbacks.recorded_construct hmake).1
      rw [map_outcome] at hp
      exact .notConstructed hd.plain hp
  | @replaced new object w₂ w₃ hd hmake =>
      have hretired := (retired cb.recorded c.current (c.supersede object new) w₃).plain.eq_retire
      have hexit := Exit.replaced hd.plain (Callbacks.recorded_construct hmake).1
      rw [show retire cb c.plain.current (c.plain.supersede object.object new) w₃.world = _ from
        hretired.symm] at hexit
      exact hexit

end Container

end LiveConfig
