import LiveConfig.Proofs.Container.Course
import LiveConfig.Proofs.Container.Draining
import Mathlib.Data.List.Induction
/-!
The history of a session: what its updates came to tells how its container stands.

Only updates change the generation and the config in force, and the calls of an update show what it
changed. So a container stands where its updates have brought it, one after the other, whatever
leases were taken in between.
-/

set_option autoImplicit false

namespace LiveConfig

variable {R C σ : Type}

/-! ### What updates add up to -/

namespace Container

theorem generation_foldl (l : List (Attempt C)) (st : Standing C) :
    (l.foldl Standing.advance st).generation =
      st.generation + (l.map Attempt.result).count (.ok .replace) := by
  induction l generalizing st with
  | nil => rfl
  | cons a rest ih =>
      rw [List.foldl_cons, ih, List.map_cons, List.count_cons]
      simp only [Standing.advance, beq_iff_eq]
      omega

theorem config_foldl (l : List (Attempt C)) (first : C) :
    (l.foldl Standing.advance ⟨1, ⟨0, first⟩, 1⟩).stamps =
        (l.filterMap Attempt.adopted?).length + 1 ∧
      (l.foldl Standing.advance ⟨1, ⟨0, first⟩, 1⟩).config =
        ⟨(l.filterMap Attempt.adopted?).length,
          (l.filterMap Attempt.adopted?).getLast?.getD first⟩ := by
  induction l using List.reverseRecOn with
  | nil => exact ⟨rfl, rfl⟩
  | append_singleton before a ih =>
      obtain ⟨hstamps, hconfig⟩ := ih
      rw [List.foldl_append, List.filterMap_append, List.foldl_cons, List.foldl_nil]
      cases hadopted : a.adopted? with
      | none => simp [Standing.advance, hadopted, hstamps, hconfig]
      | some config => simp [Standing.advance, hadopted, hstamps]

/-! ### Requests that are no updates -/

variable {cb : Callbacks R C σ} {c : Container (Numbered R) C} {w : Recorded C σ}

def OnlyClosed (w w' : Recorded C σ) : Prop :=
  ∃ calls, w'.calls = w.calls ++ calls ∧ ∀ call ∈ calls, call.isClose = true

theorem OnlyClosed.refl (w : Recorded C σ) : OnlyClosed w w :=
  ⟨[], (List.append_nil _).symm, nofun⟩

theorem onlyClosed_close (cb : Callbacks R C σ) (o : Numbered R) (w : Recorded C σ) :
    OnlyClosed w (cb.recorded.close o w).2.2 := by
  refine ⟨[.close o.number (cb.close o.object w.world).1], rfl, ?_⟩
  intro call hcall
  obtain rfl := List.mem_singleton.mp hcall
  rfl

theorem quiet_close (cb : Callbacks R C σ) (c : Container (Numbered R) C) (w : Recorded C σ) :
    (close cb.recorded c w).container.standing = c.standing ∧
      OnlyClosed w (close cb.recorded c w).world := by
  cases hclosed : c.isClosed with
  | true =>
      rw [close_of_closed hclosed]
      exact ⟨rfl, .refl w⟩
  | false =>
      by_cases hidle : c.leases = 0
      · rw [close_of_idle hclosed hidle]
        exact ⟨rfl, onlyClosed_close cb c.current.object w⟩
      · rw [close_of_leased hclosed hidle]
        exact ⟨rfl, .refl w⟩

theorem quiet_giveBack (cb : Callbacks R C σ) (c : Container (Numbered R) C) (g : Nat)
    (w : Recorded C σ) :
    (giveBack cb.recorded c g w).container.standing = c.standing ∧
      OnlyClosed w (giveBack cb.recorded c g w).world := by
  by_cases hg : c.generation = g
  · by_cases hlast : c.phase = .draining ∧ c.unleased.leases = 0
    · rw [giveBack_last hg hlast.1 hlast.2]
      exact ⟨rfl, onlyClosed_close cb c.unleased.current.object w⟩
    · rw [giveBack_current hg hlast]
      exact ⟨rfl, .refl w⟩
  · obtain ⟨w', closings, hstep, hworld⟩ := giveBack_superseded cb.recorded w hg
    rw [hstep]
    rcases hworld with rfl | ⟨object, rfl⟩
    · exact ⟨rfl, .refl w'⟩
    · exact ⟨rfl, onlyClosed_close cb object w⟩

theorem Course.made {a : Attempt C} (h : Course cb c a) :
    a.calls.filterMap Call.made? = if a.result = .ok .replace then [c.generation + 1] else [] := by
  cases h with
  | closed | noCompare | kept | noReset | reset => rfl
  | notFetched f | notCompared new f | notReset new f | notConstructed new f => cases f <;> rfl
  | replaced new spawned closing _ hopen hidle =>
      have hclosing : closing.filterMap Call.made? = [] := by
        by_cases hclosed : spawned = .ok () ∧ c.leases = 0
        · obtain ⟨outcome, rfl⟩ := hidle hclosed.1 hclosed.2
          rfl
        · rw [hopen (not_and_or.mp hclosed)]
          rfl
      rw [if_pos rfl]
      change (c.generation + 1) :: closing.filterMap Call.made? = [c.generation + 1]
      rw [hclosing]

end Container

namespace Session

def decisions (s : Session R C σ) : List Request → List (Outcome ContainerError Decision)
  | [] => []
  | r :: rest => (if r = .update then [s.update.1] else []) ++ (s.serve r).decisions rest

def attempts (s : Session (Numbered R) C (Recorded C σ)) : List Request → List (Attempt C)
  | [] => []
  | r :: rest =>
      (if r = .update then [⟨s.update.2.world.calls.drop s.world.calls.length, s.update.1⟩]
        else []) ++ (s.serve r).attempts rest

variable {cb : Callbacks R C σ} {s : Session (Numbered R) C (Recorded C σ)}

theorem attempts_append (s : Session (Numbered R) C (Recorded C σ)) (first second : List Request) :
    s.attempts (first ++ second) = s.attempts first ++ (s.after first).attempts second := by
  induction first generalizing s with
  | nil => rfl
  | cons r rest ih => rw [List.cons_append, attempts, attempts, ih, List.append_assoc, after_cons]

theorem quiet_release (h : s.callbacks = cb.recorded) (owner : String) :
    (s.release owner).2.container.standing = s.container.standing ∧
      Container.OnlyClosed s.world (s.release owner).2.world := by
  cases hlookup : s.held.lookup owner with
  | none =>
      rw [release_of_none hlookup]
      exact ⟨rfl, .refl _⟩
  | some g =>
      rw [release_of_some hlookup, h]
      exact Container.quiet_giveBack cb s.container g s.world

theorem quiet_serve (h : s.callbacks = cb.recorded) {r : Request} (hr : r ≠ .update) :
    (s.serve r).container.standing = s.container.standing ∧
      Container.OnlyClosed s.world (s.serve r).world := by
  cases r with
  | update => exact absurd rfl hr
  | lease owner =>
      change (s.lease owner).2.container.standing = s.container.standing ∧
        Container.OnlyClosed s.world (s.lease owner).2.world
      cases hclosed : s.container.isClosed with
      | true =>
          rw [lease_of_closed hclosed]
          exact ⟨rfl, .refl _⟩
      | false =>
          rw [lease_of_open hclosed]
          exact quiet_release (s := { s with container := s.container.leased }) h owner
  | giveBack owner => exact quiet_release h owner
  | close =>
      change (s.take (s.container.close s.callbacks s.world)).2.container.standing = _ ∧
        Container.OnlyClosed s.world (s.take (s.container.close s.callbacks s.world)).2.world
      rw [h]
      exact Container.quiet_close cb s.container s.world

theorem update_attempt (h : Tenancy cb [] s) : ∃ a, s.attempts [.update] = [a] ∧
    a.result = s.update.1 ∧ (s.serve .update).world.calls = s.world.calls ++ a.calls ∧
      Container.Course cb s.container a ∧
      (s.serve .update).container.standing = s.container.standing.advance a := by
  obtain ⟨calls, hcalls, hcourse, hstanding⟩ := Container.update_course cb h.books.made
  rw [← h.callbacks] at hcalls hcourse hstanding
  refine ⟨⟨calls, s.update.1⟩, ?_, rfl, hcalls, hcourse, hstanding⟩
  have hdrop : s.update.2.world.calls.drop s.world.calls.length = calls := by
    change (s.container.update s.callbacks s.world).world.calls.drop _ = calls
    rw [hcalls, List.drop_left]
  simp [attempts, hdrop]

/-- The container stands where its updates have brought it. -/
theorem standing_after (h : Tenancy cb [] s) (requests : List Request) :
    (s.after requests).container.standing =
      (s.attempts requests).foldl Container.Standing.advance s.container.standing := by
  induction requests generalizing s with
  | nil => rfl
  | cons r rest ih =>
      rw [after_cons, ih (h.serve r)]
      by_cases hr : r = .update
      · subst hr
        obtain ⟨a, ha, -, -, -, hstanding⟩ := update_attempt h
        rw [← List.singleton_append, attempts_append, ha, hstanding]
        rfl
      · rw [attempts, if_neg hr, List.nil_append, (quiet_serve h.callbacks hr).1]

/-- Apart from closes, the calls of a run are those of its updates. -/
theorem calls_after (h : Tenancy cb [] s) (requests : List Request) :
    (s.after requests).world.calls.filter (!·.isClose) = s.world.calls.filter (!·.isClose) ++
      (s.attempts requests).flatMap (·.calls.filter (!·.isClose)) := by
  induction requests generalizing s with
  | nil => exact (List.append_nil _).symm
  | cons r rest ih =>
      rw [after_cons, ih (h.serve r)]
      by_cases hr : r = .update
      · subst hr
        obtain ⟨a, ha, -, hcalls, -⟩ := update_attempt h
        rw [← List.singleton_append, attempts_append, ha, hcalls]
        simp [after]
      · obtain ⟨calls, hcalls, hclose⟩ := (quiet_serve h.callbacks hr).2
        have hnone : calls.filter (!·.isClose) = [] := by
          rw [List.filter_eq_nil_iff]
          intro call hcall
          simp [hclose call hcall]
        rw [attempts, if_neg hr, List.nil_append, hcalls, List.filter_append, hnone,
          List.append_nil]

theorem made_after_run (h : Tenancy cb [] s)
    (hmade : s.world.calls.filterMap Call.made? = List.range' 1 s.container.generation)
    (requests : List Request) :
    (s.after requests).world.calls.filterMap Call.made? =
      List.range' 1 (s.after requests).container.generation := by
  induction requests generalizing s with
  | nil => exact hmade
  | cons r rest ih =>
      refine ih (h.serve r) ?_
      by_cases hr : r = .update
      · subst hr
        obtain ⟨a, -, -, hcalls, hcourse, hstanding⟩ := update_attempt h
        have hgeneration : (s.serve .update).container.generation =
            s.container.generation + if a.result = .ok .replace then 1 else 0 :=
          congrArg Container.Standing.generation hstanding
        rw [hcalls, List.filterMap_append, hmade, hcourse.made, hgeneration]
        by_cases hreplaced : a.result = .ok .replace
        · rw [if_pos hreplaced, if_pos hreplaced, List.range'_1_concat, Nat.add_comm 1]
        · rw [if_neg hreplaced, if_neg hreplaced, List.append_nil, Nat.add_zero]
      · obtain ⟨hstanding, calls, hcalls, hclose⟩ := quiet_serve h.callbacks hr
        have hgeneration : (s.serve r).container.generation = s.container.generation :=
          congrArg Container.Standing.generation hstanding
        have hnone : calls.filterMap Call.made? = [] := by
          rw [List.filterMap_eq_nil_iff]
          intro call hcall
          have hcloses := hclose call hcall
          cases call with
          | close => rfl
          | fetch | compare | construct | reset | spawn => exact absurd hcloses nofun
        rw [hcalls, List.filterMap_append, hmade, hnone, List.append_nil, hgeneration]

theorem result_attempts (h : s.callbacks = cb.recorded) (requests : List Request) :
    (s.attempts requests).map Attempt.result = (s.plain cb).decisions requests := by
  induction requests generalizing s with
  | nil => rfl
  | cons r rest ih =>
      have hserve : (s.serve r).plain cb = (s.plain cb).serve r := plain_after h [r]
      rw [attempts, decisions, List.map_append, ih ((callbacks_serve s r).trans h), hserve]
      by_cases hr : r = .update
      · have hresult : s.update.1 = (s.plain cb).update.1 := by
          have hplain := congrArg Step.result (Container.plain_update cb s.container s.world)
          rw [← h] at hplain
          exact hplain
        rw [if_pos hr, if_pos hr, ← hresult]
        rfl
      · rw [if_neg hr, if_neg hr]
        rfl

theorem calls_start {name : String} {w : σ} {w' : Recorded C σ}
    (built : start name cb.recorded ⟨w, []⟩ = (.ok s, w')) : ∃ first,
      s.world.calls = [.fetch none (.ok first), .construct none first (.ok 1)] ∧
        s.container.standing = ⟨1, ⟨0, first⟩, 1⟩ := by
  obtain ⟨c, hbuild, rfl⟩ := start_eq_ok_iff.mp built
  obtain ⟨first, object, w₁, hfetch, hmake, rfl⟩ := Container.build_eq_ok_iff.mp hbuild
  obtain ⟨-, hw', hnumber⟩ := Callbacks.recorded_construct hmake
  have hw₁ := (Callbacks.recorded_fetch hfetch).2
  have hobject : object.number = 1 := by
    rw [hnumber object rfl, hw₁]
    rfl
  refine ⟨first, ?_, rfl⟩
  change w'.calls = _
  rw [hw', hw₁]
  simp [Recorded.after, Outcome.map, hobject]

/-- The updates of a run determine how its container stands, whatever its callbacks answer. The
generation counts the replacements. The config in force is the one fetched by the last update that
took it, or the first one, and each that was taken is a new one. The object of a generation is the
one made in its turn. No other request has any callback called, except to close objects; and the
next update takes one of the courses. -/
theorem history_determines_container {cb : Callbacks R C σ} {name : String} {w : σ}
    {s : Session (Numbered R) C (Recorded C σ)} {w' : Recorded C σ}
    (built : start name cb.recorded ⟨w, []⟩ = (.ok s, w')) (requests : List Request) :
    let t := s.after requests
    let attempts := s.attempts requests
    let adopted := attempts.filterMap Attempt.adopted?
    (start name cb w = (.ok (s.plain cb), w'.world) ∧
      t.plain cb = (s.plain cb).after requests ∧
      attempts.map Attempt.result = (s.plain cb).decisions requests) ∧
    t.container.generation = 1 + (attempts.map Attempt.result).count (.ok .replace) ∧
    (∃ first, s.world.calls = [.fetch none (.ok first), .construct none first (.ok 1)] ∧
      t.container.current.config = ⟨adopted.length, adopted.getLast?.getD first⟩) ∧
    (t.world.calls.filterMap Call.made? = List.range' 1 t.container.generation ∧
      ∀ slot ∈ t.container.slots, slot.object.number = slot.generation) ∧
    t.world.calls.filter (!·.isClose) =
      s.world.calls ++ attempts.flatMap (·.calls.filter (!·.isClose)) ∧
    ∃ a, s.attempts (requests ++ [.update]) = attempts ++ [a] ∧
      a.result = t.update.1 ∧ t.update.2.world.calls = t.world.calls ++ a.calls ∧
      Container.Course cb t.container a := by
  intro t attempts adopted
  have hstart : Tenancy cb [] s := Tenancy.start built
  have htenancy : Tenancy cb [] t := Tenancy.after built requests
  obtain ⟨first, hcalls, hfirst⟩ := calls_start built
  have hstanding : t.container.standing =
      attempts.foldl Container.Standing.advance ⟨1, ⟨0, first⟩, 1⟩ := by
    rw [← hfirst]
    exact standing_after hstart requests
  refine ⟨⟨plain_start built, plain_after hstart.callbacks requests,
    result_attempts hstart.callbacks requests⟩, ?_, ?_, ⟨?_, htenancy.books.numbered⟩, ?_, ?_⟩
  · have hgeneration := congrArg Container.Standing.generation hstanding
    rw [Container.generation_foldl] at hgeneration
    exact hgeneration
  · refine ⟨first, hcalls, ?_⟩
    have hconfig := congrArg Container.Standing.config hstanding
    rw [(Container.config_foldl attempts first).2] at hconfig
    exact hconfig
  · refine made_after_run hstart ?_ requests
    have hgeneration : s.container.generation = 1 :=
      congrArg Container.Standing.generation hfirst
    rw [hcalls, hgeneration]
    rfl
  · rw [calls_after hstart requests, hcalls]
    rfl
  · obtain ⟨a, ha, hresult, hworld, hcourse, -⟩ := update_attempt htenancy
    refine ⟨a, ?_, hresult, hworld, hcourse⟩
    rw [attempts_append, ha]

private def varied : Callbacks Nat Nat Nat where
  fetch := fun _ n => (.ok n, n + 1)
  compare := some fun _ _ new n =>
    (.ok (if new % 3 = 0 then .keep else if new % 3 = 1 then .reset else .replace), n)
  construct := fun _ config n => (if config < 6 then .ok config else .error "refused", n)
  reset := some fun _ object _ new n => (if new < 6 then .ok () else .panic "lost", object, n)
  close := fun object n => (.ok (), object, n)
  spawn := fun _ n => (.ok (), n)

private def begun : Session (Numbered Nat) Nat (Recorded Nat Nat) where
  callbacks := varied.recorded
  container := .fresh "pool" ⟨1, 0⟩ 0
  world := ⟨1, [.fetch none (.ok 0), .construct none 0 (.ok 1)]⟩

/-- Resets and replacements count as long as they succeed, and a closed container has its last
config. -/
theorem history_determines_container_varied :
    start "pool" varied.recorded ⟨0, []⟩ = (.ok begun, begun.world) ∧
      (begun.after [.update, .lease "a", .update, .update, .update]).container.generation = 2 ∧
      (begun.after (List.replicate 9 .update)).container.generation = 3 ∧
      (begun.after (List.replicate 9 .update ++ [.close, .update])).container.current.config =
        ⟨4, 5⟩ := by
  have built : start "pool" varied.recorded ⟨0, []⟩ = (.ok begun, begun.world) := rfl
  refine ⟨built, ?_, ?_, ?_⟩
  · obtain ⟨-, hgeneration, -⟩ := history_determines_container built
      [.update, .lease "a", .update, .update, .update]
    exact hgeneration.trans (by decide)
  · obtain ⟨-, hgeneration, -⟩ := history_determines_container built (List.replicate 9 .update)
    exact hgeneration.trans (by decide)
  · obtain ⟨-, -, ⟨first, hcalls, hconfig⟩, -⟩ := history_determines_container built
      (List.replicate 9 .update ++ [.close, .update])
    obtain rfl : first = 0 := by
      have hfetch := congrArg (List.filterMap Call.fetched?) hcalls
      exact (List.cons.inj hfetch).1.symm
    exact hconfig.trans (by decide)

end Session

end LiveConfig
