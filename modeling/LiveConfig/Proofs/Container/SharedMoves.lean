import LiveConfig.Proofs.Container.SharedSound
/-!
Every move of a shared container keeps its invariant.
-/

set_option autoImplicit false

namespace LiveConfig

variable {R C : Type} {n : Nat}

namespace SharedContainer

variable {s : SharedContainer R C n} {i : Fin n}

/-! ### The step of a call for a lease at a slot -/

/-- What a step of a call for a lease at a slot comes to. -/
inductive Tried (s : SharedContainer R C n) (i : Fin n) (c : LeaseCall) (g : Nat) :
    SharedContainer R C n → Prop
  | leased : s.spot g i = .counted → (s.slots g).retired = false →
      (s.onSlot g (.go i)).spot g i = .outside →
      Tried s i c g ((s.onSlot g (.go i)).answer i (.leased (some g) c.rounds))
  | refused : s.spot g i = .counted → (s.slots g).retired = true →
      (s.onSlot g (.go i)).spot g i = .returning .subtracting true →
      Tried s i c g (s.onSlot g (.go i))
  | waits : s.spot g i = .returning .locking true → (s.slots g).waiter ≠ none → Tried s i c g s
  | left {stage : ReturnStage} : s.spot g i = .returning stage true →
      (s.onSlot g (.go i)).spot g i = .outside →
      Tried s i c g ((s.onSlot g (.go i)).put i
        (.lease { c with rounds := c.rounds + 1, stage := .testing }))
  | deeper {stage stage' : ReturnStage} : s.spot g i = .returning stage true →
      (s.onSlot g (.go i)).spot g i = .returning stage' true → stage.depth < stage'.depth →
      Tried s i c g (s.onSlot g (.go i))

theorem tried {c : LeaseCall} {g : Nat} (hstage : c.stage = .trying g) (hseat : s.Seated g i) :
    Tried s i c g (s.goLease i c) := by
  have hgo : (s.onSlot g (.go i)).slots g = (s.slots g).go i := Function.update_self ..
  have hafter : (s.onSlot g (.go i)).spot g i = (((s.slots g).go i).threads i).spot := by
    rw [spot, hgo]
  rw [Seated] at hseat
  simp only [goLease, hstage]
  cases hspot : s.spot g i with
  | outside =>
      rw [hspot] at hseat
      exact hseat.elim
  | counted =>
      have hat : ((s.slots g).threads i).spot = .counted := hspot
      cases hretired : (s.slots g).retired with
      | true =>
          have hback : (s.onSlot g (.go i)).spot g i = .returning .subtracting true := by
            rw [hafter]
            simp [SharedSlot.go, hat, hretired, SharedSlot.put]
          rw [hback]
          exact .refused hspot hretired hback
      | false =>
          have hout : (s.onSlot g (.go i)).spot g i = .outside := by
            rw [hafter]
            simp [SharedSlot.go, hat, hretired, SharedSlot.put]
          rw [hout]
          exact .leased hspot hretired hout
  | returning stage refused =>
      have hat : ((s.slots g).threads i).spot = .returning stage refused := hspot
      rw [hspot] at hseat
      obtain ⟨rfl, -⟩ := hseat
      have hback : (s.slots g).go i = (s.slots g).goBack i true stage := by
        simp only [SharedSlot.go, hat]
      rcases SharedSlot.own_goBack hat with ⟨rfl, hwaiter, hwaits⟩ | hout | ⟨stage', hon, hdeeper⟩
      · have hsame : s.onSlot g (.go i) = s := by
          have hslots : Function.update s.slots g ((s.slots g).go i) = s.slots := by
            rw [hback, hwaits, Function.update_eq_self]
          exact congrArg (fun slots => { s with slots }) hslots
        rw [hsame, hspot]
        exact .waits hspot hwaiter
      · rw [← hback, ← hafter] at hout
        rw [hout]
        exact .left hspot hout
      · rw [← hback, ← hafter] at hon
        rw [hon]
        exact .deeper hspot hon hdeeper

namespace Sound

/-! ### Calls that begin -/

theorem begin (h : Sound s) {call : ContainerCall R C} (houtside : s.calls i = .outside)
    (hlocks : call.locks = false) (hmarks : call.marks = false) (hfits : s.Fits i call) :
    Sound (s.put i call) := by
  refine h.put ?_ (by rw [houtside]; rfl) hfits (.inl hmarks) fun g hdrains => ?_
  · rw [houtside, hlocks]
    exact .stay
  · rw [houtside] at hdrains
    cases hdrains

theorem release (h : Sound s) {g : Nat} (houtside : s.calls i = .outside)
    (hheld : 0 < ((s.slots g).threads i).held) :
    Sound ((s.onSlot g (.giveBack i)).put i (.release g)) := by
  have hle : g ≤ s.current := by
    by_contra hlt
    rw [h.vacant g (Nat.not_le.mp hlt) i] at hheld
    exact absurd hheld (Nat.lt_irrefl 0)
  refine h.seated .giveBack ?_ ?_ ?_ rfl (fun _ => rfl)
    (fun hlt => absurd hle (Nat.not_le.mpr hlt)) hle
  · rw [houtside]
    exact fun g' hg' => absurd hg' (Option.not_mem_none g')
  all_goals
    rw [houtside]
    rfl

/-! ### Calls for a lease -/

theorem walked (h : Sound s) {call : ContainerCall R C} {answers : List (Fin n × CallAnswer)}
    (hslot : (s.calls i).slot? = none) (hlocks : (s.calls i).locks = false)
    (hmarks : (s.calls i).marks = false) (hlocks' : call.locks = false)
    (hmarks' : call.marks = false) (hfits : s.Fits i call) :
    Sound { s.put i call with answers := answers } := by
  refine h.put ?_ hslot hfits (.inl hmarks') fun g hdrains => ?_
  · rw [hlocks, hlocks']
    exact .stay
  · rw [ContainerCall.marks_of_drains? hdrains] at hmarks
    cases hmarks

theorem goLease_trying (h : Sound s) {began rounds g : Nat}
    (hcall : s.calls i = .lease ⟨began, rounds, .trying g⟩) :
    Sound (s.goLease i ⟨began, rounds, .trying g⟩) := by
  have hfits := h.fits i
  rw [hcall] at hfits
  obtain ⟨hpaced, hle, hseat⟩ := hfits
  have hslot : (s.calls i).slot? = some g := by
    rw [hcall]
    rfl
  have hnew : ¬ s.current < g := Nat.not_lt.mpr hle
  have hmark : ((s.onSlot g (.go i)).slots g).retired = (s.slots g).retired := by
    rw [slots_onSlot_self, SharedSlot.IsStepOf.go.retired]
  -- the call goes on at the slot, or its thread has left the slot
  have hstays : ∀ stage, (s.onSlot g (.go i)).spot g i = .returning stage true →
      (s.slots g).retired = true → Sound (s.onSlot g (.go i)) := by
    intro stage hspot hretired
    refine h.onSlot .go hslot (fun hlt => absurd hlt hnew) ?_
    rw [hcall]
    refine ⟨hpaced, hle, ?_⟩
    rw [Seated, hspot]
    exact ⟨rfl, hmark.trans hretired⟩
  have hleaves : ∀ call answers, (s.onSlot g (.go i)).spot g i = .outside → call.locks = false →
      call.marks = false → (s.onSlot g (.go i)).Fits i call →
      Sound { (s.onSlot g (.go i)).put i call with answers := answers } := by
    intro call answers hspot hlocks hmarks hfits
    refine h.seated .go ?_ (by rw [hcall]; rfl) (by rw [hcall, hlocks]; rfl) hmarks
      (fun hne => absurd hspot hne) (fun hlt => absurd hlt hnew) hfits
    rw [hslot]
    exact fun g' hg' => (Option.some.inj hg').symm
  have hretired : ∀ stage, s.spot g i = .returning stage true → (s.slots g).retired = true := by
    intro stage hspot
    rw [Seated, hspot] at hseat
    exact hseat.2
  have htried := tried (c := ⟨began, rounds, .trying g⟩) rfl hseat
  generalize s.goLease i ⟨began, rounds, .trying g⟩ = t at htried
  cases htried with
  | leased _ _ hout => exact hleaves _ _ hout rfl rfl trivial
  | refused _ hmarked hback => exact hstays _ hback hmarked
  | waits => exact h
  | left hback hout =>
      refine hleaves _ (s.onSlot g (.go i)).answers hout rfl rfl ⟨?_, False.elim⟩
      have hlate := hpaced.late (h.retired g (hretired _ hback))
      change rounds + 1 + began ≤ s.changes + 1
      change rounds + began ≤ s.changes at hlate
      omega
  | deeper hback hon => exact hstays _ hon (hretired _ hback)

theorem goLease (h : Sound s) {c : LeaseCall} (hcall : s.calls i = .lease c) :
    Sound (s.goLease i c) := by
  have hfits := h.fits i
  have hlocks : (s.calls i).locks = false := by
    rw [hcall]
    rfl
  have hmarks : (s.calls i).marks = false := by
    rw [hcall]
    rfl
  rw [hcall] at hfits
  obtain ⟨began, rounds, stage⟩ := c
  cases stage with
  | testing =>
      have hslot : (s.calls i).slot? = none := by
        rw [hcall]
        rfl
      simp only [SharedContainer.goLease]
      split
      · exact h.walked hslot hlocks hmarks rfl rfl trivial
      · rename_i hopen
        exact h.walked hslot hlocks hmarks rfl rfl
          ⟨hfits.begun, fun hclosed => absurd hclosed hopen⟩
  | loading =>
      refine h.walked (by rw [hcall]; rfl) hlocks hmarks rfl rfl
        ⟨⟨hfits.begun, fun hstale => hfits.late ?_⟩, le_refl _⟩
      exact hstale.resolve_left (not_not.mpr rfl)
  | counting g =>
      obtain ⟨hpaced, hle⟩ := hfits
      have hslot : (s.calls i).slot? = none := by
        rw [hcall]
        rfl
      have hspot : (s.onSlot g (.acquire i)).spot g i = .counted := by
        have hout : ((s.slots g).threads i).spot = .outside := h.outside_of_none hslot g
        rw [spot, slots_onSlot_self]
        simp [SharedSlot.move, hout, SharedSlot.put]
      refine h.seated .acquire (by simp [hslot]) (by rw [hcall]; rfl) (by rw [hcall]; rfl)
        rfl (fun _ => rfl) (fun hlt => absurd hle (Nat.not_le.mpr hlt))
        ⟨⟨hpaced.begun, hpaced.late⟩, hle, ?_⟩
      rw [Seated, hspot]
      trivial
  | trying g => exact h.goLease_trying hcall

/-! ### Leases that are returned -/

theorem goRelease (h : Sound s) {g : Nat} (hcall : s.calls i = .release g) :
    Sound (s.goRelease i g) := by
  have hle : g ≤ s.current := by
    have hfits := h.fits i
    rwa [hcall] at hfits
  have hslot : (s.calls i).slot? = some g := by
    rw [hcall]
    rfl
  have hnew : ¬ s.current < g := Nat.not_lt.mpr hle
  simp only [SharedContainer.goRelease]
  split
  · rename_i hout
    refine h.seated .go (fun g' hg' => ?_) (by rw [hcall]; rfl) (by rw [hcall]; rfl) rfl
      (fun hne => absurd hout hne) (fun hlt => absurd hlt hnew) trivial
    exact Option.some.inj ((Option.mem_def.mp hg').symm.trans hslot)
  · refine h.onSlot .go hslot (fun hlt => absurd hlt hnew) ?_
    rw [hcall]
    exact hle

/-! ### Updates -/

theorem updating (h : Sound s) {stage : UpdateStage R C} {call : ContainerCall R C}
    {lock : Option (Fin n)} {answers : List (Fin n × CallAnswer)} {stamps : Nat}
    (hcall : s.calls i = .update stage)
    (hlock : LockStep i s.lock lock stage.locks call.locks) (hmarks : call.marks = false)
    (hfits : s.Fits i call) :
    Sound { s with
      calls := Function.update s.calls i call
      lock := lock
      answers := answers
      stamps := stamps } := by
  refine h.put ?_ (by rw [hcall]; rfl) hfits (.inl hmarks) fun g hdrains => ?_
  · rw [hcall]
    exact hlock
  · rw [hcall] at hdrains
    cases hdrains

theorem goUpdate (h : Sound s) {stage : UpdateStage R C} (hcall : s.calls i = .update stage) :
    Sound (s.goUpdate i stage) := by
  have hfits := h.fits i
  have hlocked := (h.locked i).mp
  rw [hcall] at hfits hlocked
  obtain ⟨hopen, hcurrent, hsuperseded⟩ := hfits
  cases stage with
  | locking =>
      simp only [SharedContainer.goUpdate]
      split
      · rename_i hfree
        refine h.updating hcall ?_ rfl (fits_of_idle rfl rfl rfl)
        rw [hfree]
        exact .take
      · exact h
  | testing =>
      simp only [SharedContainer.goUpdate]
      split
      · exact h.updating hcall .stay rfl (fits_of_idle rfl rfl rfl)
      · rename_i hopen
        split
        · exact h.updating hcall .stay rfl
            (fits_of_entered (Bool.of_not_eq_true hopen) (by simp [UpdateStage.source?]) rfl)
        · exact h.updating hcall .stay rfl (fits_of_idle rfl rfl rfl)
  | loading new => 
      refine h.updating hcall .stay rfl (fits_of_entered (hopen rfl) (fun g hg => ?_) rfl)
      exact (Option.some.inj hg).symm
  | adopting new g =>
      have hedited := h.edit (g := g) (f := fun slot => { slot with config := ⟨s.stamps, new⟩ }) rfl
      exact hedited.updating hcall .stay rfl (fits_of_idle rfl rfl rfl)
  | swapping object new g => 
      have hcur := hcurrent g rfl
      have hlocks : (s.calls i).locks = true := by
        rw [hcall]
        rfl
      have hnew : ∀ slot : SharedSlot R C n, Function.update s.slots (g + 1) slot (g + 1) = slot :=
        fun _ => Function.update_self ..
      refine h.changed (hopen rfl) hlocks rfl (by omega) ?_ (fun g' => ?_) (.inr ?_) rfl
        ⟨fun hentered => (by cases hentered), fun g' hg' => (by cases hg'), fun g' hg' => ?_⟩
      · change s.current + s.closed.toNat < g + 1 + s.closed.toNat
        omega
      · by_cases hg : g' = g + 1
        · subst hg
          exact .inr ⟨by omega, _, hnew _⟩
        · exact .inl (Function.update_of_ne hg _ _)
      · rw [hnew]
        rfl
      · cases hg'
        refine ⟨rfl, ?_⟩
        by_contra hdisposed
        exact absurd (h.disposed g hdisposed) (by omega)
  | disposing g =>
      have hnext := (hsuperseded g rfl).1
      have hput : Sound (s.put i (.update (.leaving (.ok .replace)))) :=
        h.updating hcall .stay rfl (fits_of_idle rfl rfl rfl)
      refine hput.disposal (g := g) (d := .running) (by change g < s.current; omega) (fun j hj => ?_)
        fun _ => rfl
      change Function.update s.calls i _ j = _ at hj
      by_cases hji : j = i
      · subst hji
        rw [Function.update_self] at hj
        cases hj
      · -- nobody else has the lock
        rw [Function.update_of_ne hji] at hj
        have hother := h.lock_unique (by rw [hcall]; rfl) hji
        rw [hj] at hother
        cases hother
  | leaving result =>
      refine h.updating hcall ?_ rfl trivial
      rw [hlocked rfl]
      exact .free
  | fetching | comparing | resetting | constructing => exact h

/-! ### Closes -/

theorem shutting (h : Sound s) {stage : CloseStage} {call : ContainerCall R C}
    {lock : Option (Fin n)} {answers : List (Fin n × CallAnswer)} {closings : List Closing}
    (hcall : s.calls i = .close stage)
    (hlock : LockStep i s.lock lock stage.locks call.locks)
    (hmarks : call.marks = false ∨ stage.marks = true) (hfits : s.Fits i call)
    (hleft : ∀ g, (ContainerCall.close stage : ContainerCall R C).drains? = some g →
      (s.slots g).drainer.underway = false) :
    Sound { s with
      calls := Function.update s.calls i call
      lock := lock
      answers := answers
      closings := closings } := by
  refine h.put ?_ (by rw [hcall]; rfl) hfits (by rw [hcall]; exact hmarks) (by rwa [hcall])
  rw [hcall]
  exact hlock

theorem goClose (h : Sound s) {stage : CloseStage} (hcall : s.calls i = .close stage) :
    Sound (s.goClose i stage) := by
  have hfits := h.fits i
  have hlocked := (h.locked i).mp
  rw [hcall] at hfits hlocked
  obtain ⟨hclosed, hcurrent⟩ := hfits
  cases stage with
  | locking =>
      simp only [SharedContainer.goClose]
      split
      · rename_i hfree
        refine h.shutting hcall ?_ (.inl rfl) (fits_of_unmarked rfl rfl)
          (by simp [ContainerCall.drains?])
        rw [hfree]
        exact .take
      · exact h
  | swapping =>
      simp only [SharedContainer.goClose]
      split
      · exact h.shutting hcall .stay (.inl rfl) (fits_of_unmarked rfl rfl)
          (by simp [ContainerCall.drains?])
      · rename_i hopen
        have hopen := Bool.of_not_eq_true hopen
        refine h.changed hopen (by rw [hcall]; rfl) rfl (le_refl _) ?_ (fun _ => .inl rfl) (.inl rfl)
          rfl ⟨fun _ => rfl, fun g hg => by cases hg⟩
        rw [SharedContainer.changes, hopen]
        exact Nat.lt_succ_self _
  | refusing =>
      refine h.shutting hcall ?_ (.inl rfl) trivial (by simp [ContainerCall.drains?])
      rw [hlocked rfl]
      exact .free
  | loading =>
      refine h.shutting hcall .stay (.inr rfl) ⟨hclosed, fun g hg => ?_⟩
        (by simp [ContainerCall.drains?])
      exact (Option.some.inj hg).symm
  | unlocking g =>
      refine h.shutting hcall ?_ (.inr rfl) ⟨hclosed, hcurrent⟩ (by simp [ContainerCall.drains?])
      rw [hlocked rfl]
      exact .free
  | draining g =>
      have hdrained : Sound (s.onSlot g .drain) :=
        h.aside .drain fun _ => ⟨.inr (hclosed rfl), .inr ⟨i, by rw [hcall]; rfl⟩⟩
      simp only [SharedContainer.goClose]
      split
      · rename_i hreturned
        have hat : (s.onSlot g .drain).calls i = .close (.draining g) := hcall
        refine hdrained.shutting hat .stay (.inr rfl) ⟨hclosed, hcurrent⟩ fun g' hg' => ?_
        cases hg'
        rw [hreturned]
        rfl
      · exact hdrained
  | closing g => exact h

/-! ### Moves -/

theorem go (h : Sound s) (i : Fin n) : Sound (s.go i) := by
  simp only [SharedContainer.go]
  split
  · exact h
  · exact h.goLease ‹_›
  · exact h.goRelease ‹_›
  · exact h.goUpdate ‹_›
  · exact h.goClose ‹_›

/-- What a callback comes back with takes an update no further than the swap. -/
theorem resume (h : Sound s) {stage : UpdateStage R C} (hcall : s.calls i = .update stage)
    (r : CallbackReply R C) : Sound (s.put i (.update (s.resume stage r))) := by
  have hfits := h.fits i
  rw [hcall] at hfits
  have hopen := hfits.1
  have hcurrent := hfits.2.1
  simp only [SharedContainer.resume]
  split
  · exact h.updating hcall .stay rfl (fits_of_entered (hopen rfl) (by simp [UpdateStage.source?]) rfl)
  · exact h.updating hcall .stay rfl (fits_of_idle rfl rfl rfl)
  · rename_i new g d
    cases d with
    | keep => exact h.updating hcall .stay rfl (fits_of_idle rfl rfl rfl)
    | reset =>
        simp only [decide]
        split
        · exact h.updating hcall .stay rfl (fits_of_entered (hopen rfl) hcurrent rfl)
        · exact h.updating hcall .stay rfl (fits_of_idle rfl rfl rfl)
    | replace => exact h.updating hcall .stay rfl (fits_of_entered (hopen rfl) hcurrent rfl)
  · exact h.updating hcall .stay rfl (fits_of_idle rfl rfl rfl)
  · exact h.updating hcall .stay rfl (fits_of_entered (hopen rfl) hcurrent rfl)
  · exact h.updating hcall .stay rfl (fits_of_idle rfl rfl rfl)
  · exact h.updating hcall .stay rfl (fits_of_entered (hopen rfl) hcurrent rfl)
  · exact h.updating hcall .stay rfl (fits_of_idle rfl rfl rfl)
  · exact h.updating hcall .stay rfl hfits

theorem move (h : Sound s) (m : ContainerMove R C n) : Sound (s.move m) := by
  cases m with
  | lease i =>
      simp only [SharedContainer.move]
      split
      · refine h.begin ‹_› rfl rfl ⟨?_, False.elim⟩
        exact (Nat.add_comm _ _).le
      · exact h
  | release i g =>
      simp only [SharedContainer.move]
      split
      · split
        · exact h.release ‹_› ‹_›
        · exact h
      · exact h
  | update i =>
      simp only [SharedContainer.move]
      split
      · exact h.begin ‹_› rfl rfl (fits_of_idle rfl rfl rfl)
      · exact h
  | close i =>
      simp only [SharedContainer.move]
      split
      · exact h.begin ‹_› rfl rfl (fits_of_unmarked rfl rfl)
      · exact h
  | pass i j g => exact h.aside (.pass i j) fun hdrain => by cases hdrain
  | go i => exact h.go i
  | touch i object =>
      simp only [SharedContainer.move]
      split
      · exact h.edit rfl
      · exact h.edit rfl
      · exact h
  | reply i r =>
      simp only [SharedContainer.move]
      split
      · exact h.resume ‹_› _
      · rename_i hcall
        exact h.shutting hcall .stay (.inl rfl) trivial (by simp [ContainerCall.drains?])
      · exact h
  | abandon i =>
      simp only [SharedContainer.move]
      split
      · exact h.updating ‹_› .stay rfl (fits_of_idle rfl rfl rfl)
      · exact h
  | dispose g =>
      simp only [SharedContainer.move]
      split
      · rename_i hrunning
        refine h.aside .drain fun _ => ⟨.inl ?_, .inl hrunning⟩
        exact (h.disposed g (by simp [hrunning])).ne
      · exact h
  | discard g outcome =>
      simp only [SharedContainer.move]
      split
      · rename_i hover
        obtain ⟨hrunning, hreturned⟩ := hover
        refine h.disposal (h.disposed g (by simp [hrunning])) (fun j hj => ?_) fun hr => ?_
        · have hfits := h.fits j
          rw [hj] at hfits
          have habsent := (hfits.2.2 g rfl).2
          rw [hrunning] at habsent
          cases habsent
        · rw [hreturned] at hr
          cases hr
      · exact h
  | wake g => exact h.aside .wake fun hdrain => by cases hdrain

theorem after (h : Sound s) (moves : List (ContainerMove R C n)) : Sound (s.after moves) :=
  after_induction (fun _ m hs => hs.move m) h moves

end Sound

end SharedContainer

end LiveConfig
