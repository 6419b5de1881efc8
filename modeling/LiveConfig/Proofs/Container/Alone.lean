import LiveConfig.Proofs.Container.SharedMoves
/-!
A call to a shared container that nobody interrupts does what the container does.
-/

set_option autoImplicit false

namespace LiveConfig

variable {R C σ : Type} {n : Nat}

/-- The moves that are made on behalf of a thread. -/
def ContainerMove.IsOf (i : Fin n) : ContainerMove R C n → Prop
  | .lease j | .release j _ | .update j | .close j | .go j | .touch j _ | .reply j _
  | .abandon j => j = i
  | .pass .. | .dispose _ | .discard .. | .wake _ => False

namespace SharedContainer

/-- What threads share is a container: they agree on the current slot, on whether the container is
closed, and on the snapshots so far. -/
structure Shows (s : SharedContainer R C n) (c : Container R C) : Prop where
  current : s.current = c.generation
  slot : (s.slots s.current).slot = c.current
  closed : s.closed = c.isClosed
  stamps : s.stamps = c.stamps

/-- A call of a thread that nobody interrupts leaves a container behind, with an answer. -/
def Leaves (s : SharedContainer R C n) (i : Fin n) (c : Container R C) (a : CallAnswer) : Prop :=
  ∃ moves : List (ContainerMove R C n), (∀ m ∈ moves, m.IsOf i) ∧ (s.after moves).Shows c ∧
    (s.after moves).answers = s.answers ++ [(i, a)]

def updating (s : SharedContainer R C n) (i : Fin n) (stage : UpdateStage R C) :
    SharedContainer R C n :=
  { s.put i (.update stage) with lock := some i }

variable {s s' : SharedContainer R C n} {c : Container R C} {i : Fin n} {cb : Callbacks R C σ} {w : σ}

@[simp] theorem put_updating (stage stage' : UpdateStage R C) :
    (s.updating i stage).put i (.update stage') = s.updating i stage' := by
  simp [updating, put]

theorem go_updating (stage : UpdateStage R C) :
    (s.updating i stage).move (.go i) = (s.updating i stage).goUpdate i stage := by
  simp [move, go, updating, put]

@[simp] theorem go_testing : (s.updating i .testing).move (.go i) = s.updating i
    (if s.closed then .leaving (.error .closed) else if s.supplied .compare then .fetching
      else .leaving (.error (.missing .compare))) := by
  rw [go_updating]
  change (if s.closed then _ else if s.supplied .compare then _ else _) = _
  split
  · exact put_updating _ _
  · split <;> exact put_updating _ _

@[simp] theorem go_loading (new : C) :
    (s.updating i (.loading new)).move (.go i) = s.updating i (.comparing new s.current) := by
  rw [go_updating]
  exact put_updating _ _

@[simp] theorem touch_resetting (new : C) (g : Nat) (object : R) :
    (s.updating i (.resetting new g)).move (.touch i object) =
      (s.edit g fun slot => { slot with object }).updating i (.resetting new g) := by
  have hcall : (s.updating i (.resetting new g)).calls i = .update (.resetting new g) :=
    Function.update_self ..
  simp only [move, hcall]
  rfl

@[simp] theorem reply_updating (stage : UpdateStage R C) (r : CallbackReply R C) :
    (s.updating i stage).move (.reply i r) = s.updating i (s.resume stage r) := by
  have hcall : (s.updating i stage).calls i = .update stage := Function.update_self ..
  simp only [move, hcall]
  exact put_updating _ _

theorem leaves_of_updating (moves : List (ContainerMove R C n))
    {result : Outcome ContainerError Decision} (houtside : s.calls i = .outside)
    (hfree : s.lock = none)
    (hmoves : ∀ m ∈ moves, m.IsOf i) (hanswers : s'.answers = s.answers) (hshows : s'.Shows c)
    (hthrough : (s.updating i .testing).after moves = s'.updating i (.leaving result)) :
    Leaves s i c (.updated result) := by
  have henter : (s.move (.update i)).move (.go i) = s.updating i .testing := by
    simp [move, go, goUpdate, houtside, hfree, put, updating]
  have hrun : s.after (.update i :: .go i :: (moves ++ [.go i])) =
      (s'.updating i (.leaving result)).move (.go i) := by
    rw [← hthrough, ← henter]
    exact after_append (s := (s.move (.update i)).move (.go i)) moves [.go i]
  refine ⟨.update i :: .go i :: (moves ++ [.go i]), fun m hm => ?_, ?_, ?_⟩
  · simp only [List.mem_cons, List.mem_append, List.not_mem_nil, or_false] at hm
    rcases hm with rfl | rfl | hm | rfl
    · rfl
    · rfl
    · exact hmoves m hm
    · rfl
  · rw [hrun, go_updating]
    exact ⟨hshows.current, hshows.slot, hshows.closed, hshows.stamps⟩
  · rw [hrun, go_updating, ← hanswers]
    rfl

/-- The moves of an update up to the comparison with the config in force. -/
def comparing (i : Fin n) (new : C) : List (ContainerMove R C n) :=
  [.go i, .reply i (.fetched new), .go i]

theorem after_comparing (hopen : s.closed = false) (hcompare : s.supplied .compare = true) (new : C)
    (moves : List (ContainerMove R C n)) :
    (s.updating i .testing).after (comparing i new ++ moves) =
      (s.updating i (.comparing new s.current)).after moves := by
  rw [after_append]
  refine congrArg (fun t => after t moves) ?_
  simp [after, comparing, hopen, hcompare, resume]

@[simp] theorem go_adopting (new : C) (g : Nat) :
    (s.updating i (.adopting new g)).move (.go i) =
      { s.edit g fun slot => { slot with config := ⟨s.stamps, new⟩ } with
        stamps := s.stamps + 1 }.updating i (.leaving (.ok .reset)) := by
  rw [go_updating]
  simp [goUpdate, updating, put, edit]

/-- What an update that supersedes a slot leaves before it starts a thread. -/
def superseded (s : SharedContainer R C n) (object : R) (new : C) (g : Nat) : SharedContainer R C n :=
  { s with
    slots := Function.update s.slots (g + 1) (.start n ⟨object, ⟨s.stamps, new⟩, g + 1, 0⟩)
    current := g + 1
    stamps := s.stamps + 1 }

def disposing (s : SharedContainer R C n) (g : Nat) : SharedContainer R C n :=
  { s with disposals := Function.update s.disposals g .running }

theorem go_swapping (object : R) (new : C) (g : Nat) :
    ((s.updating i (.swapping object new g)).move (.go i)).move (.go i) =
      ((s.superseded object new g).disposing g).updating i (.leaving (.ok .replace)) := by
  rw [go_updating]
  simp [goUpdate, updating, put, superseded, disposing, move, go]

theorem go_abandoning (object : R) (new : C) (g : Nat) :
    ((s.updating i (.swapping object new g)).move (.go i)).move (.abandon i) =
      (s.superseded object new g).updating i (.leaving (.ok .replace)) := by
  rw [go_updating]
  simp [goUpdate, updating, put, superseded, move]

theorem leaves_of_decided (moves : List (ContainerMove R C n)) (s' : SharedContainer R C n)
    {c' : Container R C} {new : C} {d : Decision} {w' : σ} {result : Outcome ContainerError Decision}
    (h : s.Shows c)
    (houtside : s.calls i = .outside) (hfree : s.lock = none)
    (hcompare : s.supplied .compare = cb.compare.isSome) (hd : Container.Decided cb c w new d w')
    (hmoves : ∀ m ∈ moves, m.IsOf i) (hanswers : s'.answers = s.answers) (hshows : s'.Shows c')
    (hthrough : (s.updating i (s.decide new s.current d)).after moves =
      s'.updating i (.leaving result)) : Leaves s i c' (.updated result) := by
  obtain ⟨hopen, compare, w₁, hsome, hfetch, hcall⟩ := hd
  refine leaves_of_updating (comparing i new ++ .reply i (.compared d) :: moves) houtside hfree
    (fun m hm => ?_) hanswers hshows ?_
  · simp only [comparing, List.mem_append, List.mem_cons, List.not_mem_nil, or_false] at hm
    rcases hm with (rfl | rfl | rfl) | rfl | hm
    · rfl
    · rfl
    · rfl
    · rfl
    · exact hmoves m hm
  · rw [after_comparing (h.closed.trans hopen) (by rw [hcompare, hsome]; rfl), ← hthrough]
    change ((s.updating i _).move _).after moves = _
    rw [reply_updating]
    rfl

/-- An update that nobody interrupts does what the container does. -/
theorem update_alone (h : s.Shows c) (houtside : s.calls i = .outside) (hfree : s.lock = none)
    (hcompare : s.supplied .compare = cb.compare.isSome)
    (hreset : s.supplied .reset = cb.reset.isSome) :
    Leaves s i (Container.update cb c w).container (.updated (Container.update cb c w).result) := by
  have hexit := Container.exit_update cb c w
  -- an update that commits nothing
  have hkept : ∀ moves {result}, (∀ m ∈ moves, m.IsOf i) →
      (s.updating i .testing).after moves = s.updating i (.leaving result) →
      Leaves s i c (.updated result) := fun moves _ hmoves =>
    leaves_of_updating moves houtside hfree hmoves rfl h
  have hobject : ∀ object, (s.edit s.current fun slot => { slot with object }).Shows
      (c.withObject object) := fun object =>
    ⟨h.current, by simp [edit, h.slot, Container.withObject], h.closed, h.stamps⟩
  generalize Container.update cb c w = step at hexit
  cases hexit with
  | closed hc =>
      refine hkept [.go i] (by simp [ContainerMove.IsOf]) ?_
      simp [after, h.closed, hc]
  | noCompare hopen hnone =>
      refine hkept [.go i] (by simp [ContainerMove.IsOf]) ?_
      simp [after, h.closed, hopen, hcompare, hnone]
  | @notFetched compare f _ hopen hsome =>
      refine hkept [.go i, .reply i (.failed f)] (by simp [ContainerMove.IsOf]) ?_
      simp [after, h.closed, hopen, hcompare, hsome, resume]
  | @notCompared compare new f _ _ hopen hsome =>
      refine hkept (comparing i new ++ [.reply i (.failed f)])
        (by simp [comparing, ContainerMove.IsOf]) ?_
      rw [after_comparing (h.closed.trans hopen) (by rw [hcompare, hsome]; rfl)]
      simp [after, resume]
  | kept hd =>
      exact leaves_of_decided [] s h houtside hfree hcompare hd (List.forall_mem_nil _) rfl h rfl
  | noReset hd hnone =>
      refine leaves_of_decided [] s h houtside hfree hcompare hd (List.forall_mem_nil _) rfl h ?_
      simp [after, decide, hreset, hnone]
  | @notReset reset new f object _ _ hd hsome =>
      refine leaves_of_decided [.touch i object, .reply i (.failed f)]
        (s.edit s.current fun slot => { slot with object }) h houtside hfree hcompare hd
        (by simp [ContainerMove.IsOf]) rfl (hobject object) ?_
      simp [after, decide, hreset, hsome, resume]
  | @reset reset new object _ _ hd hsome =>
      refine leaves_of_decided [.touch i object, .reply i .reset, .go i]
        { (s.edit s.current fun slot => { slot with object }).edit s.current
          (fun slot => { slot with config := ⟨s.stamps, new⟩ }) with stamps := s.stamps + 1 }
        h houtside hfree hcompare hd (by simp [ContainerMove.IsOf]) rfl ?_ ?_
      · obtain ⟨hcurrent, hslot, hclosed, hstamps⟩ := hobject object
        refine ⟨hcurrent, ?_, hclosed, ?_⟩
        · simp [edit, Container.install, Container.withObject, h.slot, h.stamps]
        · simp [Container.install, Container.withObject, h.stamps]
      · simp [after, decide, hreset, hsome, resume]
        rfl
  | @notConstructed new f _ _ hd =>
      refine leaves_of_decided [.reply i (.failed f)] s h houtside hfree hcompare hd
        (by simp [ContainerMove.IsOf]) rfl h ?_
      simp [after, decide, resume]
  | @replaced new object _ w₃ hd =>
      have hgeneration : s.current + 1 = c.generation + 1 := congrArg (· + 1) h.current
      have hnext : (s.superseded object new s.current).Shows (c.supersede object new) :=
        ⟨hgeneration,
          by simp [superseded, SharedSlot.start, Container.supersede, h.current, h.stamps],
          h.closed, congrArg (· + 1) h.stamps⟩
      have hkept : (s.superseded object new s.current).Shows
          ((c.supersede object new).keep c.current) := by
        unfold Container.keep
        split <;> exact ⟨hnext.current, hnext.slot, hnext.closed, hnext.stamps⟩
      have hretired := Container.retired cb c.current (c.supersede object new) w₃
      generalize Container.retire cb c.current (c.supersede object new) w₃ = step at hretired
      cases hretired with
      | stranded =>
          refine leaves_of_decided [.reply i (.constructed object), .go i, .abandon i]
            (s.superseded object new s.current) h houtside hfree hcompare hd
            (by simp [ContainerMove.IsOf]) rfl
            ⟨hkept.current, hkept.slot, hkept.closed, hkept.stamps⟩ ?_
          simp [after, decide, resume, go_abandoning]
      | closed =>
          refine leaves_of_decided [.reply i (.constructed object), .go i, .go i]
            ((s.superseded object new s.current).disposing s.current) h houtside hfree hcompare hd
            (by simp [ContainerMove.IsOf]) rfl
            ⟨hnext.current, hnext.slot, hnext.closed, hnext.stamps⟩ ?_
          simp [after, decide, resume, go_swapping]
      | waiting =>
          refine leaves_of_decided [.reply i (.constructed object), .go i, .go i]
            ((s.superseded object new s.current).disposing s.current) h houtside hfree hcompare hd
            (by simp [ContainerMove.IsOf]) rfl
            ⟨hkept.current, hkept.slot, hkept.closed, hkept.stamps⟩ ?_
          simp [after, decide, resume, go_swapping]

/-! ### Leases -/

/-- A lease that nobody interrupts is the one that the container gives. -/
theorem lease_alone (hsound : Sound s) (h : s.Shows c) (houtside : s.calls i = .outside) {g : Nat}
    {c' : Container R C} (hlease : c.lease? = .ok (g, c')) : Leaves s i c' (.leased (some g) 1) := by
  cases hopen : c.isClosed with
  | true =>
      rw [Container.lease?_of_closed hopen] at hlease
      cases hlease
  | false =>
      rw [Container.lease?_of_open hopen] at hlease
      cases hlease
      have hout : ((s.slots s.current).threads i).spot = .outside :=
        hsound.outside_of_none (by rw [houtside]; rfl) _
      have hretired : (s.slots s.current).retired = false := by
        by_contra hne
        have hstale := hsound.retired _ (Bool.of_not_eq_false hne)
        rw [Stale, h.closed, hopen] at hstale
        simp at hstale
      have hclosed := h.closed.trans hopen
      let counted := (s.onSlot s.current (.acquire i)).put i
        (.lease { began := s.changes, stage := .trying s.current })
      have hslots : counted.slots s.current = (s.slots s.current).move (.acquire i) :=
        Function.update_self ..
      have hspot : counted.spot s.current i = .counted := by
        rw [spot, hslots]
        simp [SharedSlot.move, hout, SharedSlot.put]
      have hmark : (counted.slots s.current).retired = false := by
        rw [hslots, SharedSlot.IsStepOf.acquire.retired, hretired]
      have hrun : s.after [.lease i, .go i, .go i, .go i, .go i] =
          counted.goLease i { began := s.changes, stage := .trying s.current } := by
        simp [after, move, go, goLease, houtside, put, hclosed, counted, onSlot]
      have htried : Tried counted i { began := s.changes, stage := .trying s.current } s.current
          (s.after [.lease i, .go i, .go i, .go i, .go i]) := by
        rw [hrun]
        refine tried rfl ?_
        rw [Seated, hspot]
        trivial
      refine ⟨[.lease i, .go i, .go i, .go i, .go i], by simp [ContainerMove.IsOf], ?_⟩
      generalize s.after [.lease i, .go i, .go i, .go i, .go i] = t at htried
      cases htried with
      | leased =>
          have hslot :
              ((counted.onSlot s.current (.go i)).slots s.current).slot = c.leased.current := by
            rw [Sound.slots_onSlot_self, hslots]
            exact (SharedSlot.acquire_alone h.slot hout hretired).1
          refine ⟨⟨h.current, hslot, h.closed, h.stamps⟩, ?_⟩
          rw [h.current]
          rfl
      | refused _ hretired' =>
          rw [hmark] at hretired'
          cases hretired'
      | waits hback | left hback | deeper hback =>
          rw [hspot] at hback
          cases hback

theorem refused_alone (h : s.Shows c) (houtside : s.calls i = .outside) {e : ContainerError}
    (hlease : c.lease? = .error e) : Leaves s i c (.leased none 1) := by
  cases hopen : c.isClosed with
  | true =>
      have hclosed := h.closed.trans hopen
      have hrun : s.after [.lease i, .go i] =
          (s.put i (.lease { began := s.changes })).answer i (.leased none 1) := by
        simp [after, move, go, goLease, houtside, put, hclosed]
      refine ⟨[.lease i, .go i], by simp [ContainerMove.IsOf], ?_, ?_⟩
      · rw [hrun]
        exact ⟨h.current, h.slot, h.closed, h.stamps⟩
      · rw [hrun]
        rfl
  | false =>
      rw [Container.lease?_of_open hopen] at hlease
      cases hlease

theorem release_alone (hsound : Sound s) (h : s.Shows c) (houtside : s.calls i = .outside)
    (hheld : 0 < ((s.slots s.current).threads i).held) :
    (s.after [.release i s.current, .go i]).Shows c.unleased := by
  have hout : ((s.slots s.current).threads i).spot = .outside :=
    hsound.outside_of_none (by rw [houtside]; rfl) _
  let begun := (s.onSlot s.current (.giveBack i)).put i (.release s.current)
  have hcall : begun.calls i = .release s.current := Function.update_self ..
  have hrun : s.after [.release i s.current, .go i] = begun.goRelease i s.current := by
    have hrelease : s.move (.release i s.current) = begun := by
      simp only [move, houtside, hheld, if_true, begun]
    change (s.move (.release i s.current)).move (.go i) = _
    rw [hrelease]
    simp only [move, go, hcall]
  have hslot : ((begun.onSlot s.current (.go i)).slots s.current).slot = c.unleased.current := by
    have hslots : begun.slots s.current = (s.slots s.current).move (.giveBack i) :=
      Function.update_self ..
    rw [Sound.slots_onSlot_self, hslots]
    exact SharedSlot.giveBack_alone h.slot hout hheld
  rw [hrun]
  simp only [goRelease]
  split <;> exact ⟨h.current, hslot, h.closed, h.stamps⟩

/-! ### Closes -/

def draining (s : SharedContainer R C n) (i : Fin n) : SharedContainer R C n :=
  { s.put i (.close (.draining s.current)) with closed := true, lock := none }

theorem after_close (houtside : s.calls i = .outside) (hfree : s.lock = none)
    (hopen : s.closed = false) :
    s.after [.close i, .go i, .go i, .go i, .go i] = s.draining i := by
  simp [after, move, go, goClose, houtside, hfree, hopen, put, draining]

def closing (s : SharedContainer R C n) (i : Fin n) : SharedContainer R C n :=
  { s.put i (.close (.closing s.current)) with
    slots := Function.update s.slots s.current
      { s.slots s.current with retired := true, drainer := .returned, waiter := none }
    closed := true
    lock := none }

theorem after_draining (hwaiter : (s.slots s.current).waiter = none)
    (hdrainer : (s.slots s.current).drainer = .retiring)
    (hidle : (s.slots s.current).slot.leases = 0) :
    (s.draining i).after [.go i, .go i, .go i, .go i] = s.closing i := by
  simp [after, move, go, goClose, draining, closing, put, onSlot, SharedSlot.move, SharedSlot.drain,
    hwaiter, hdrainer, hidle]

theorem after_closing (object : R) (outcome : Outcome String Unit) :
    (s.closing i).after [.touch i object, .reply i (.closed outcome)] =
      { ((s.closing i).edit s.current fun slot => { slot with object }).answer i
          (.closed (outcome.mapError .close)) with
        closings := s.closings ++ [.closed s.current false outcome] } := by
  simp [after, move, closing, put, edit, answer]

/-- A close that nobody interrupts does what the container does, up to where it waits for leases. -/
theorem close_alone (hsound : Sound s) (h : s.Shows c) (houtside : s.calls i = .outside)
    (hfree : s.lock = none) (hwaiter : (s.slots s.current).waiter = none) :
    ∃ moves : List (ContainerMove R C n), (∀ m ∈ moves, m.IsOf i) ∧
      (s.after moves).Shows (Container.close cb c w).container ∧
      ∀ outcome, (Container.close cb c w).result = .done outcome →
        (s.after moves).answers = s.answers ++ [(i, .closed outcome)] := by
  cases hopen : c.isClosed with
  | true =>
      have hclosed := h.closed.trans hopen
      have hrun : s.after [.close i, .go i, .go i, .go i] =
          { s.answer i (.closed (.error .alreadyClosed)) with lock := none } := by
        simp [after, move, go, goClose, houtside, hfree, hclosed, put, answer]
      rw [Container.close_of_closed hopen]
      refine ⟨[.close i, .go i, .go i, .go i], by simp [ContainerMove.IsOf], ?_, ?_⟩
      · rw [hrun]
        exact ⟨h.current, h.slot, h.closed, h.stamps⟩
      · intro outcome hdone
        cases hdone
        rw [hrun]
        rfl
  | false =>
      have hclose := after_close houtside hfree (h.closed.trans hopen)
      by_cases hidle : c.leases = 0
      · have hdrainer : (s.slots s.current).drainer = .retiring := by
          refine (hsound.slots s.current).not_retiring fun hretired => ?_
          have hstale := hsound.retired _ hretired
          rw [Stale, h.closed, hopen] at hstale
          simp at hstale
        have hleases : (s.slots s.current).slot.leases = 0 := (congrArg Slot.leases h.slot).trans hidle
        rcases hcb : cb.close c.current.object w with ⟨outcome, object, w'⟩
        have hrun : s.after ([.close i, .go i, .go i, .go i, .go i] ++ ([.go i, .go i, .go i, .go i] ++
            [.touch i object, .reply i (.closed outcome)])) =
            { ((s.closing i).edit s.current fun slot => { slot with object }).answer i
                (.closed (outcome.mapError .close)) with
              closings := s.closings ++ [.closed s.current false outcome] } := by
          rw [after_append, hclose, after_append, after_draining hwaiter hdrainer hleases,
            after_closing]
        rw [Container.close_of_idle hopen hidle]
        refine ⟨[.close i, .go i, .go i, .go i, .go i] ++ ([.go i, .go i, .go i, .go i] ++
          [.touch i object, .reply i (.closed outcome)]), by simp [ContainerMove.IsOf], ?_, ?_⟩
        · rw [hrun]
          refine ⟨?_, ?_, ?_, ?_⟩
          · simp only [Container.finishClose, hcb]
            exact h.current
          · simp [Container.finishClose, hcb, answer, put, edit, closing, h.slot]
          · simp [Container.finishClose, hcb, Container.isClosed, answer, put, edit, closing]
          · simp only [Container.finishClose, hcb]
            exact h.stamps
        · intro result hdone
          cases hdone
          rw [hrun]
          simp [Container.finishClose, hcb, answer, edit, closing, put]
      · rw [Container.close_of_leased hopen hidle]
        refine ⟨[.close i, .go i, .go i, .go i, .go i], by simp [ContainerMove.IsOf], ?_,
          fun outcome hdone => by cases hdone⟩
        rw [hclose]
        exact ⟨h.current, h.slot, by simp [draining, Container.isClosed], h.stamps⟩

/-! ### All calls -/

/-- The calls of a thread that nobody interrupts do what the container does. Updates and closes need
the lock, and a close that of the waiter; callbacks are whatever the world makes of them. -/
structure Agrees (s : SharedContainer R C n) (i : Fin n) (c : Container R C) : Prop where
  leased : ∀ g c', c.lease? = .ok (g, c') → s.Leaves i c' (.leased (some g) 1)
  refused : ∀ e, c.lease? = .error e → s.Leaves i c (.leased none 1)
  released : 0 < ((s.slots s.current).threads i).held →
    (s.after [.release i s.current, .go i]).Shows c.unleased
  updated : ∀ (σ : Type) (cb : Callbacks R C σ) (w : σ), s.lock = none →
    s.supplied .compare = cb.compare.isSome → s.supplied .reset = cb.reset.isSome →
    s.Leaves i (Container.update cb c w).container (.updated (Container.update cb c w).result)
  closed : ∀ (σ : Type) (cb : Callbacks R C σ) (w : σ), s.lock = none →
    (s.slots s.current).waiter = none →
    ∃ moves : List (ContainerMove R C n), (∀ m ∈ moves, m.IsOf i) ∧
      (s.after moves).Shows (Container.close cb c w).container ∧
      ∀ outcome, (Container.close cb c w).result = .done outcome →
        (s.after moves).answers = s.answers ++ [(i, .closed outcome)]

theorem agrees (hsound : Sound s) (h : s.Shows c) (houtside : s.calls i = .outside) :
    s.Agrees i c where
  leased _ _ := lease_alone hsound h houtside
  refused _ := refused_alone h houtside
  released := release_alone hsound h houtside
  updated _ _ _ := update_alone h houtside
  closed _ _ _ := close_alone hsound h houtside

end SharedContainer

end LiveConfig
