import LiveConfig.Proofs.Store.Following
import LiveConfig.Proofs.Store.Revised
/-!
Hosts whose registered callbacks touch neither the store nor the files.

They may do anything else, fail and panic included. A tick then leaves the files alone, and the
store but for its settings.
-/

set_option autoImplicit false

namespace LiveConfig

variable {V : Vocabulary} {σ : Type}

/-- The store and the files are the same. -/
structure Spares (files : Focus σ FileTree) (w w' : World V σ) : Prop where
  store : w'.store = w.store
  files : files.get w'.outside = files.get w.outside

namespace Spares

variable {files : Focus σ FileTree} {w w' w'' : World V σ}

theorem refl (w : World V σ) : Spares files w w := ⟨rfl, rfl⟩

theorem trans (h : Spares files w w') (h' : Spares files w' w'') : Spares files w w'' :=
  ⟨h'.store.trans h.store, h'.files.trans h.files⟩

end Spares

/-- The host reads the files, and what is registered spares the store and the files. What the
revision makes of settings depends on nothing else. -/
structure Host.Confined (h : Host V σ) (files : Focus σ FileTree) (r : Registry V) : Prop where
  reads : ∀ o path, h.read o path = (files.get o).read path
  revises : ∀ k, r.revision = some k → ∃ f : Settings → Except Panic Settings, ∀ m w,
    (h.revise k m w).1 = f m ∧ Spares files w (h.revise k m w).2
  hooks : ∀ k, k ∈ r.before ∨ k ∈ r.after → ∀ w, Spares files w (h.hook k w).2
  updaters : ∀ u ∈ r.updaters, ∀ w, Spares files w (h.update u w).2
  handlers : ∀ k, r.handler = some k → ∀ e w, Spares files w (h.handle k e w).2
  notes : ∀ n w, Spares files w (h.note n w)

namespace Host.Confined

variable {h : Host V σ} {files : Focus σ FileTree} {r : Registry V} {w w' : World V σ}

theorem report (hc : h.Confined files r) (hr : w.store.registry = r) (e : StoreError) :
    Spares files w (h.report e w).2 := by
  cases hhandler : w.store.registry.handler with
  | none =>
      simp only [Host.report, hhandler]
      exact hc.notes _ w
  | some k =>
      simp only [Host.report, hhandler]
      exact hc.handlers k (hr ▸ hhandler) e w

theorem endTick (hc : h.Confined files r) {α : Type} (result : Except Panic α) :
    Spares files w (h.endTick (result, w)) := by
  cases result with
  | ok a => exact .refl w
  | error p => exact hc.notes _ w

theorem runHooks (hc : h.Confined files r) {hooks : List V.Hook}
    (hmem : ∀ k ∈ hooks, k ∈ r.before ∨ k ∈ r.after) : Spares files w (h.runHooks hooks w).2 := by
  induction hooks generalizing w with
  | nil => exact .refl w
  | cons k rest ih =>
      have hfirst := hc.hooks k (hmem k List.mem_cons_self) w
      rcases hrun : h.hook k w with ⟨result, w₁⟩
      rw [hrun] at hfirst
      cases result with
      | ok _ =>
          simp only [Host.runHooks, hrun]
          exact hfirst.trans (ih fun k' hk' => hmem k' (List.mem_cons_of_mem k hk'))
      | error p =>
          simp only [Host.runHooks, hrun]
          exact hfirst

theorem runUpdater (hc : h.Confined files r) (hr : w.store.registry = r) {u : V.Updater}
    (hmem : u ∈ r.updaters) : Spares files w (h.runUpdater u w).2 := by
  have hfirst := hc.updaters u hmem w
  rcases hrun : h.update u w with ⟨result, w₁⟩
  rw [hrun] at hfirst
  cases result with
  | ok _ =>
      simp only [Host.runUpdater, hrun]
      exact hfirst
  | panic p =>
      simp only [Host.runUpdater, hrun]
      exact hfirst
  | error reason =>
      simp only [Host.runUpdater, hrun]
      exact hfirst.trans (hc.report (hfirst.store ▸ hr) _)

theorem runUpdaters (hc : h.Confined files r) (hr : w.store.registry = r)
    {updaters : List V.Updater} (hmem : ∀ u ∈ updaters, u ∈ r.updaters) :
    Spares files w (h.runUpdaters updaters w).2 := by
  induction updaters generalizing w with
  | nil => exact .refl w
  | cons u rest ih =>
      have hfirst := hc.runUpdater hr (hmem u List.mem_cons_self)
      rcases hrun : h.runUpdater u w with ⟨result, w₁⟩
      rw [hrun] at hfirst
      cases result with
      | error p =>
          simp only [Host.runUpdaters, hrun]
          exact hfirst
      | ok failed =>
          simp only [Host.runUpdaters, hrun]
          exact hfirst.trans (ih (hfirst.store ▸ hr) fun u' hu' =>
            hmem u' (List.mem_cons_of_mem u hu'))

theorem runRegistered (hc : h.Confined files r) (hr : w.store.registry = r) :
    Spares files w (h.runRegistered r w).2 := by
  have hbefore : Spares files w (h.runHooks r.before w).2 := hc.runHooks fun k hk => .inl hk
  rcases hrun : h.runHooks r.before w with ⟨result, w₁⟩
  rw [hrun] at hbefore
  cases result with
  | error p =>
      simp only [Host.runRegistered, hrun]
      exact hbefore
  | ok _ =>
      have hupdaters : Spares files w₁ (h.runUpdaters r.updaters w₁).2 :=
        hc.runUpdaters (hbefore.store ▸ hr) fun _ hu => hu
      rcases hrun' : h.runUpdaters r.updaters w₁ with ⟨result, w₂⟩
      rw [hrun'] at hupdaters
      cases result with
      | error p =>
          simp only [Host.runRegistered, hrun, hrun']
          exact hbefore.trans hupdaters
      | ok failed =>
          simp only [Host.runRegistered, hrun, hrun']
          exact (hbefore.trans hupdaters).trans (hc.runHooks fun k hk => .inr hk)

theorem fresh_spares (hc : h.Confined files r) (hr : w.store.registry = r) :
    Spares files w (h.fresh w).2 := by
  rcases h.world_fresh w with hleft | ⟨k, m, hrevision, hleft⟩
  · rw [hleft]
    exact .refl w
  · obtain ⟨f, hf⟩ := hc.revises k (hr ▸ hrevision)
    rw [hleft]
    exact (hf m w).2

theorem fresh_eq (hc : h.Confined files r) (hr : w.store.registry = r)
    (hpath : w'.store.path = w.store.path) (hregistry : w'.store.registry = w.store.registry)
    (hread : (files.get w'.outside).read w.store.path = (files.get w.outside).read w.store.path) :
    (h.fresh w').1 = (h.fresh w).1 := by
  refine Loader.fresh_eq _ hpath (by rw [hregistry]) (by rw [hc.reads, hc.reads, hread]) ?_
  intro k m hrevision
  obtain ⟨f, hf⟩ := hc.revises k (hr ▸ hrevision)
  rw [(hf m w').1, (hf m w).1]

theorem fresh_of_spares (hc : h.Confined files r) (hr : w.store.registry = r)
    (hs : Spares files w w') : (h.fresh w').1 = (h.fresh w).1 :=
  hc.fresh_eq hr (congrArg Store.path hs.store) (congrArg Store.registry hs.store)
    (by rw [hs.files])

end Host.Confined

end LiveConfig
