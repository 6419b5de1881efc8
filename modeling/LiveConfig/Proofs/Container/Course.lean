import LiveConfig.Proofs.Container.Books
/-!
The course of an update: the calls that it makes, in order, and how it ends.

The callbacks decide how far an update gets, and the calls show how far it got. So the calls and the
end of an update tell what became of its container, without a look at the container itself.
-/

set_option autoImplicit false

namespace LiveConfig

variable {R C σ ρ : Type}

namespace Call

def fetched? : Call C → Option C
  | fetch _ (.ok config) => some config
  | _ => none

def made? : Call C → Option Nat
  | construct _ _ (.ok number) => some number
  | _ => none

end Call

/-- An update that was made: its calls, in order, and how it ended. -/
structure Attempt (C : Type) where
  calls : List (Call C)
  result : Outcome ContainerError Decision

def Attempt.adopted? (a : Attempt C) : Option C :=
  match a.result with
  | .ok .reset | .ok .replace => a.calls.findSome? Call.fetched?
  | _ => none

namespace Container

def Ready (cb : Callbacks R C σ) (c : Container (Numbered R) C) : Prop :=
  c.isClosed = false ∧ cb.compare ≠ none

def comparing (c : Container (Numbered R) C) (new : C) (d : Outcome String Decision) :
    List (Call C) :=
  [.fetch (some c.view) (.ok new), .compare c.view c.config new d]

/-- The courses that an update can take, from the one that applies first to the one that applies
last. An object is known by its number; that of a new object is the next generation. -/
inductive Course (cb : Callbacks R C σ) (c : Container (Numbered R) C) : Attempt C → Prop
  | closed : c.isClosed = true → Course cb c ⟨[], .error .closed⟩
  | noCompare : c.isClosed = false → cb.compare = none →
      Course cb c ⟨[], .error (.missing .compare)⟩
  | notFetched (f : CallFailure) : Ready cb c →
      Course cb c ⟨[.fetch (some c.view) f.outcome], f.surfaced .fetch⟩
  | notCompared (new : C) (f : CallFailure) : Ready cb c →
      Course cb c ⟨comparing c new f.outcome, f.surfaced .compare⟩
  | kept (new : C) : Ready cb c → Course cb c ⟨comparing c new (.ok .keep), .ok .keep⟩
  | noReset (new : C) : Ready cb c → cb.reset = none →
      Course cb c ⟨comparing c new (.ok .reset), .error (.missing .reset)⟩
  | notReset (new : C) (f : CallFailure) : Ready cb c → cb.reset ≠ none →
      Course cb c ⟨comparing c new (.ok .reset) ++
        [.reset c.view c.current.object.number c.config new f.outcome], f.surfaced .reset⟩
  | reset (new : C) : Ready cb c → cb.reset ≠ none →
      Course cb c ⟨comparing c new (.ok .reset) ++
        [.reset c.view c.current.object.number c.config new (.ok ())], .ok .reset⟩
  | notConstructed (new : C) (f : CallFailure) : Ready cb c →
      Course cb c ⟨comparing c new (.ok .replace) ++
        [.construct (some c.view) new f.outcome], f.surfaced .construct⟩
  /-- A thread is started for the object that was replaced, and closes it at once if nobody leases
  it. -/
  | replaced (new : C) (spawned : Except String Unit) (closing : List (Call C)) : Ready cb c →
      (spawned ≠ .ok () ∨ c.leases ≠ 0 → closing = []) →
      (spawned = .ok () → c.leases = 0 →
        ∃ outcome, closing = [.close c.current.object.number outcome]) →
      Course cb c ⟨comparing c new (.ok .replace) ++
        .construct (some c.view) new (.ok (c.generation + 1)) ::
          .spawn c.current.object.number spawned :: closing, .ok .replace⟩

/-- What updates change: the generation, the config in force and the number of configs that were
installed. -/
structure Standing (C : Type) where
  generation : Nat
  config : Snapshot C
  stamps : Nat
deriving DecidableEq, Repr

def standing (c : Container R C) : Standing C := ⟨c.generation, c.current.config, c.stamps⟩

def Standing.advance (s : Standing C) (a : Attempt C) : Standing C where
  generation := s.generation + if a.result = .ok .replace then 1 else 0
  config := (a.adopted?.map (⟨s.stamps, ·⟩)).getD s.config
  stamps := s.stamps + a.adopted?.toList.length

variable {cb : Callbacks R C σ} {c : Container (Numbered R) C} {w : Recorded C σ}

theorem advance_surfaced (s : Standing C) (calls : List (Call C)) (f : CallFailure)
    (wrap : String → ContainerError) : s.advance ⟨calls, f.surfaced wrap⟩ = s := by
  cases f <;> simp [Standing.advance, Attempt.adopted?]

theorem Decided.ready {new : C} {d : Decision} {w' : Recorded C σ}
    (h : Decided cb.recorded c w new d w') : Ready cb c := by
  obtain ⟨hopen, compare, w₁, hcompare, -, hcall⟩ := h
  obtain ⟨plain, hplain, -⟩ := Callbacks.recorded_compare hcompare hcall
  exact ⟨hopen, by rw [hplain]; exact nofun⟩

theorem Decided.calls {new : C} {d : Decision} {w' : Recorded C σ}
    (h : Decided cb.recorded c w new d w') : w'.calls = w.calls ++ comparing c new (.ok d) := by
  obtain ⟨-, compare, w₁, hcompare, hfetch, hcall⟩ := h
  obtain ⟨-, hw₁⟩ := Callbacks.recorded_fetch hfetch
  obtain ⟨-, -, -, hw'⟩ := Callbacks.recorded_compare hcompare hcall
  rw [hw', hw₁]
  simp [Recorded.after, comparing]

theorem standing_retire (cb : Callbacks R C σ) (old : Slot R C) (next : Container R C) (w : σ) :
    (retire cb old next w).1.standing = next.standing := by
  have hkept : (next.keep old).standing = next.standing := by
    unfold keep
    split <;> rfl
  have hretired := retired cb old next w
  generalize retire cb old next w = s at hretired
  cases hretired with
  | stranded | waiting => exact hkept
  | closed => rfl

/-- An update takes one of the courses, and its course tells what it leaves. -/
theorem update_course (cb : Callbacks R C σ) (hmade : w.made = c.generation) :
    ∃ calls, (update cb.recorded c w).world.calls = w.calls ++ calls ∧
      Course cb c ⟨calls, (update cb.recorded c w).result⟩ ∧
      (update cb.recorded c w).container.standing =
        c.standing.advance ⟨calls, (update cb.recorded c w).result⟩ := by
  have hexit := exit_update cb.recorded c w
  generalize update cb.recorded c w = s at hexit
  cases hexit with
  | closed hclosed => exact ⟨[], (List.append_nil _).symm, .closed hclosed, rfl⟩
  | noCompare hopen hcompare =>
      exact ⟨[], (List.append_nil _).symm,
        .noCompare hopen (Callbacks.recorded_compare_none hcompare), rfl⟩
  | @notFetched _ f _ hopen hcompare hfetch =>
      obtain ⟨plain, hplain, -⟩ := Option.map_eq_some_iff.mp hcompare
      have hready : Ready cb c := ⟨hopen, by rw [hplain]; exact nofun⟩
      have hcalls := congrArg Recorded.calls (Callbacks.recorded_fetch hfetch).2
      exact ⟨_, hcalls, .notFetched f hready, (advance_surfaced _ _ f _).symm⟩
  | @notCompared _ new f _ _ hopen hcompare hfetch hcall =>
      obtain ⟨plain, hplain, -, hw₂⟩ := Callbacks.recorded_compare hcompare hcall
      have hready : Ready cb c := ⟨hopen, by rw [hplain]; exact nofun⟩
      refine ⟨_, ?_, .notCompared new f hready, (advance_surfaced _ _ f _).symm⟩
      rw [hw₂, (Callbacks.recorded_fetch hfetch).2]
      simp [Recorded.after, comparing]
  | kept hd => exact ⟨_, hd.calls, .kept _ hd.ready, rfl⟩
  | noReset hd hr =>
      exact ⟨_, hd.calls, .noReset _ hd.ready (Callbacks.recorded_reset_none hr), rfl⟩
  | @notReset _ new f _ _ _ hd hr hreset =>
      obtain ⟨plain, hplain, -, -, hw₃⟩ := Callbacks.recorded_reset hr hreset
      refine ⟨_, ?_, .notReset new f hd.ready (by rw [hplain]; exact nofun),
        (advance_surfaced _ _ f _).symm⟩
      rw [hw₃, Recorded.after, hd.calls, List.append_assoc]
  | @reset _ new _ _ _ hd hr hreset =>
      obtain ⟨plain, hplain, -, -, hw₃⟩ := Callbacks.recorded_reset hr hreset
      refine ⟨_, ?_, .reset new hd.ready (by rw [hplain]; exact nofun), rfl⟩
      rw [hw₃, Recorded.after, hd.calls, List.append_assoc]
  | @notConstructed new f _ _ hd hmake =>
      obtain ⟨-, hw₃, -⟩ := Callbacks.recorded_construct hmake
      refine ⟨_, ?_, .notConstructed new f hd.ready, (advance_surfaced _ _ f _).symm⟩
      rw [hw₃, Recorded.after, hd.calls, map_outcome, List.append_assoc]
  | @replaced new object _ w₃ hd hmake =>
      obtain ⟨-, hw₃, hnumber⟩ := Callbacks.recorded_construct hmake
      obtain ⟨spawned, closing, hcalls, hopen, hidle⟩ :=
        retire_calls cb c.current (c.supersede object new) w₃
      have hnext : object.number = c.generation + 1 := by
        rw [hnumber object rfl, hd.idle.made, hmade]
      refine ⟨_, ?_, .replaced new spawned closing hd.ready hopen hidle, ?_⟩
      · rw [hcalls, hw₃, Recorded.after, hd.calls]
        simp [Outcome.map, hnext]
      · rw [standing_retire]
        rfl

end Container

end LiveConfig
