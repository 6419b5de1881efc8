import LiveConfig.Proofs.Container.Again
/-!
Updates that depend on the container alone.

Where callbacks end in a way that what they are given settles, so does an update: in all worlds it
comes to the same, leaves the same container and closes the same objects.
-/

set_option autoImplicit false

namespace LiveConfig

variable {R C σ : Type}

/-- In the worlds of `P`, how a callback ends and what it makes of an object is settled by what it is
given. -/
structure Callbacks.Local (cb : Callbacks R C σ) (P : σ → Prop) : Prop where
  fetch : ∀ seen, ∃ fetched, Always P (cb.fetch seen) fetched
  compare : ∀ compare ∈ cb.compare, ∀ seen old new, cb.Fetches P new →
    ∃ decided, Always P (compare seen old new) decided
  construct : ∀ seen new, cb.Fetches P new → ∃ made, Always P (cb.construct seen new) made
  reset : ∀ reset ∈ cb.reset, ∀ seen object old new, cb.Fetches P new → ∃ done, ∀ w, P w →
    ((reset seen object old new w).1, (reset seen object old new w).2.1) = done ∧
      P (reset seen object old new w).2.2
  close : ∀ object, ∃ closed, ∀ w, P w →
    ((cb.close object w).1, (cb.close object w).2.1) = closed ∧ P (cb.close object w).2.2
  spawn : ∀ object, ∃ spawned, Always P (cb.spawn object) spawned

def Step.outcome {ρ : Type} (s : Step R C σ ρ) : ρ × Container R C × List Closing :=
  (s.result, s.container, s.closings)

namespace Callbacks.Local

open Container

variable {cb : Callbacks R C σ} {P : σ → Prop} {c : Container R C} {w w' w₁ w₂ w₃ : σ} {new : C}

theorem decided (h : cb.Local P) {d : Decision} (hd : Decided cb c w new d w₂) (hw : P w)
    (hw' : P w') : P w₂ ∧ cb.Fetches P new ∧ ∃ w₂', Decided cb c w' new d w₂' ∧ P w₂' := by
  obtain ⟨hopen, compare, w₁, hcompare, hfetch, hcall⟩ := hd
  have hnew : cb.Fetches P new := ⟨some c.view, w, hw, congrArg Prod.fst hfetch⟩
  obtain ⟨fetched, hfetched⟩ := h.fetch (some c.view)
  obtain ⟨rfl, hw₁⟩ := hfetched.eq hw hfetch
  obtain ⟨decided, hdecided⟩ := h.compare compare hcompare c.view c.config new hnew
  obtain ⟨rfl, hw₂⟩ := hdecided.eq hw₁ hcall
  obtain ⟨w₁', hfetch', hw₁'⟩ := hfetched.ran hw'
  obtain ⟨w₂', hcall', hw₂'⟩ := hdecided.ran hw₁'
  exact ⟨hw₂, hnew, w₂', ⟨hopen, compare, w₁', hcompare, hfetch', hcall'⟩, hw₂'⟩

theorem resetAlike (h : cb.Local P) {reset : Resetter R C σ} (hreset : cb.reset = some reset)
    (hnew : cb.Fetches P new) {seen : View C} {object object' : R} {old : C}
    {r : Outcome String Unit} (hcall : reset seen object old new w = (r, object', w₁)) (hw : P w)
    (hw' : P w') : P w₁ ∧ ∃ w₁', reset seen object old new w' = (r, object', w₁') := by
  obtain ⟨done, hdone⟩ := h.reset reset hreset seen object old new hnew
  obtain ⟨hfirst, hw₁⟩ := hdone w hw
  obtain ⟨hsecond, -⟩ := hdone w' hw'
  rw [hcall] at hfirst hw₁
  have hsame := Prod.mk.inj (hsecond.trans hfirst.symm)
  exact ⟨hw₁, (reset seen object old new w').2.2, Prod.ext hsame.1 (Prod.ext hsame.2 rfl)⟩

theorem retire (h : cb.Local P) (slot : Slot R C) (next : Container R C) (hw : P w) (hw' : P w') :
    (Container.retire cb slot next w').1 = (Container.retire cb slot next w).1 ∧
      (Container.retire cb slot next w').2.2 = (Container.retire cb slot next w).2.2 ∧
      P (Container.retire cb slot next w).2.1 := by
  obtain ⟨spawned, hspawned⟩ := h.spawn slot.object
  have hretired := retired cb slot next w
  generalize Container.retire cb slot next w = s at hretired
  cases hretired with
  | stranded hspawn =>
      obtain ⟨rfl, hw₁⟩ := hspawned.eq hw hspawn
      obtain ⟨w₁', hspawn', -⟩ := hspawned.ran hw'
      rw [← (Retired.stranded hspawn').eq_retire]
      exact ⟨rfl, rfl, hw₁⟩
  | closed hspawn hidle =>
      obtain ⟨rfl, hw₁⟩ := hspawned.eq hw hspawn
      obtain ⟨w₁', hspawn', hw₁'⟩ := hspawned.ran hw'
      obtain ⟨closed, hclosed⟩ := h.close slot.object
      obtain ⟨hfirst, hstays⟩ := hclosed _ hw₁
      have houtcome := (Prod.mk.inj ((hclosed w₁' hw₁').1.trans hfirst.symm)).1
      rw [← (Retired.closed hspawn' hidle).eq_retire]
      refine ⟨rfl, ?_, hstays⟩
      simp only [houtcome]
  | waiting hspawn hleased =>
      obtain ⟨rfl, hw₁⟩ := hspawned.eq hw hspawn
      obtain ⟨w₁', hspawn', -⟩ := hspawned.ran hw'
      rw [← (Retired.waiting hspawn' hleased).eq_retire]
      exact ⟨rfl, rfl, hw₁⟩

theorem update (h : cb.Local P) (c : Container R C) (hw : P w) (hw' : P w') :
    P (update cb c w).world ∧ (update cb c w').outcome = (update cb c w).outcome := by
  have hexit := exit_update cb c w
  generalize Container.update cb c w = s at hexit
  cases hexit with
  | closed hclosed =>
      rw [← (Exit.closed hclosed : Exit cb c w' _).eq_update]
      exact ⟨hw, rfl⟩
  | noCompare hopen hcompare =>
      rw [← (Exit.noCompare hopen hcompare : Exit cb c w' _).eq_update]
      exact ⟨hw, rfl⟩
  | @notFetched compare f w₁ hopen hcompare hfetch =>
      obtain ⟨fetched, hfetched⟩ := h.fetch (some c.view)
      obtain ⟨rfl, hw₁⟩ := hfetched.eq hw hfetch
      obtain ⟨w₁', hfetch', -⟩ := hfetched.ran hw'
      rw [← (Exit.notFetched hopen hcompare hfetch').eq_update]
      exact ⟨hw₁, rfl⟩
  | @notCompared compare new f w₁ w₂ hopen hcompare hfetch hcall =>
      have hnew : cb.Fetches P new := ⟨some c.view, w, hw, congrArg Prod.fst hfetch⟩
      obtain ⟨fetched, hfetched⟩ := h.fetch (some c.view)
      obtain ⟨rfl, hw₁⟩ := hfetched.eq hw hfetch
      obtain ⟨decided, hdecided⟩ := h.compare compare hcompare c.view c.config new hnew
      obtain ⟨rfl, hw₂⟩ := hdecided.eq hw₁ hcall
      obtain ⟨w₁', hfetch', hw₁'⟩ := hfetched.ran hw'
      obtain ⟨w₂', hcall', -⟩ := hdecided.ran hw₁'
      rw [← (Exit.notCompared hopen hcompare hfetch' hcall').eq_update]
      exact ⟨hw₂, rfl⟩
  | kept hd =>
      obtain ⟨hw₂, -, w₂', hd', -⟩ := h.decided hd hw hw'
      rw [← (Exit.kept hd').eq_update]
      exact ⟨hw₂, rfl⟩
  | noReset hd hr =>
      obtain ⟨hw₂, -, w₂', hd', -⟩ := h.decided hd hw hw'
      rw [← (Exit.noReset hd' hr).eq_update]
      exact ⟨hw₂, rfl⟩
  | @notReset reset new f object w₂ w₃ hd hr hcall =>
      obtain ⟨hw₂, hnew, w₂', hd', hw₂'⟩ := h.decided hd hw hw'
      obtain ⟨hw₃, w₃', hcall'⟩ := h.resetAlike hr hnew hcall hw₂ hw₂'
      rw [← (Exit.notReset hd' hr hcall').eq_update]
      exact ⟨hw₃, rfl⟩
  | @reset reset new object w₂ w₃ hd hr hcall =>
      obtain ⟨hw₂, hnew, w₂', hd', hw₂'⟩ := h.decided hd hw hw'
      obtain ⟨hw₃, w₃', hcall'⟩ := h.resetAlike hr hnew hcall hw₂ hw₂'
      rw [← (Exit.reset hd' hr hcall').eq_update]
      exact ⟨hw₃, rfl⟩
  | @notConstructed new f w₂ w₃ hd hmake =>
      obtain ⟨hw₂, hnew, w₂', hd', hw₂'⟩ := h.decided hd hw hw'
      obtain ⟨made, hmade⟩ := h.construct (some c.view) new hnew
      obtain ⟨rfl, hw₃⟩ := hmade.eq hw₂ hmake
      obtain ⟨w₃', hmake', -⟩ := hmade.ran hw₂'
      rw [← (Exit.notConstructed hd' hmake').eq_update]
      exact ⟨hw₃, rfl⟩
  | @replaced new object w₂ w₃ hd hmake =>
      obtain ⟨hw₂, hnew, w₂', hd', hw₂'⟩ := h.decided hd hw hw'
      obtain ⟨made, hmade⟩ := h.construct (some c.view) new hnew
      obtain ⟨rfl, hw₃⟩ := hmade.eq hw₂ hmake
      obtain ⟨w₃', hmake', hw₃'⟩ := hmade.ran hw₂'
      obtain ⟨hcontainer, hclosings, hworld⟩ :=
        h.retire c.current (c.supersede object new) hw₃ hw₃'
      rw [← (Exit.replaced hd' hmake').eq_update]
      refine ⟨hworld, ?_⟩
      simp only [Step.outcome, hcontainer, hclosings]

end Callbacks.Local

end LiveConfig
