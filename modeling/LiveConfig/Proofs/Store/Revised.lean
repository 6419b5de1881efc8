import LiveConfig.Store.Reload
/-!
Loads and their revisions.

A revision may act on the world in which a load is under way. Some stay aloof from the store that is
loaded, and some are pure: they act on settings alone.
-/

set_option autoImplicit false

namespace LiveConfig

variable {V : Vocabulary} {σ : Type}

namespace Loader

variable (l : Loader V σ)

/-- A load leaves the world as it is, or as the revision leaves it. -/
theorem world_fresh (w : World V σ) : (l.fresh w).2 = w ∨
    ∃ r m, w.store.registry.revision = some r ∧ (l.fresh w).2 = (l.revise r m w).2 := by
  simp only [fresh]
  cases loadContent l.environment w.store.path (l.read w.outside w.store.path) with
  | error e => exact .inl rfl
  | ok m =>
      cases w.store.registry.revision with
      | none => exact .inl rfl
      | some r =>
          rcases hrevise : l.revise r m w with ⟨revised, left⟩
          refine .inr ⟨r, m, rfl, ?_⟩
          simp only [hrevise]
          cases revised <;> rfl

/-- What a load would install depends on the file and on what the revision makes of it. -/
theorem fresh_eq {w w' : World V σ} (hpath : w'.store.path = w.store.path)
    (hrevision : w'.store.registry.revision = w.store.registry.revision)
    (hread : l.read w'.outside w.store.path = l.read w.outside w.store.path)
    (hrevise : ∀ r m, w.store.registry.revision = some r →
      (l.revise r m w').1 = (l.revise r m w).1) : (l.fresh w').1 = (l.fresh w).1 := by
  simp only [fresh, hpath, hrevision, hread]
  cases loadContent l.environment w.store.path (l.read w.outside w.store.path) with
  | error e => rfl
  | ok m =>
      cases hsome : w.store.registry.revision with
      | none => rfl
      | some r =>
          have hsame := hrevise r m hsome
          rcases hleft : l.revise r m w with ⟨revised, left⟩
          rcases hleft' : l.revise r m w' with ⟨revised', left'⟩
          rw [hleft, hleft'] at hsame
          obtain rfl : revised' = revised := hsame
          simp only [hleft, hleft']
          cases revised' <;> rfl

/-- What a revision, if there is one, makes of freshly read settings and of the world. -/
def revised (r : Option V.Revision) (m : Settings) (w : World V σ) :
    Except Panic Settings × World V σ :=
  match r with
  | none => (.ok m, w)
  | some r => l.revise r m w

theorem load_eq (w : World V σ) : l.load w =
    match loadContent l.environment w.store.path (l.read w.outside w.store.path) with
    | .error e => (.error e, w)
    | .ok m =>
        match l.revised w.store.registry.revision m w with
        | (.error p, w) => (.panic p.message, w)
        | (.ok m, w) => (.ok (), { w with store := { w.store with settings := some m } }) := by
  rw [load, fresh]
  cases loadContent l.environment w.store.path (l.read w.outside w.store.path) with
  | error e => rfl
  | ok m =>
      cases w.store.registry.revision with
      | none => rfl
      | some r =>
          simp only [revised]
          rcases l.revise r m w with ⟨result, left⟩
          cases result <;> rfl

/-- How a load ends, and the world that it leaves. -/
inductive Ends (w : World V σ) : Outcome LoadError Unit × World V σ → Prop
  | unread {e : LoadError} :
      loadContent l.environment w.store.path (l.read w.outside w.store.path) = .error e →
      Ends w (.error e, w)
  | panicked {m : Settings} {r : V.Revision} {p : Panic} {left : World V σ} :
      w.store.registry.revision = some r → l.revise r m w = (.error p, left) →
      Ends w (.panic p.message, left)
  | installed {bytes : ByteArray} {m m' : Settings} {left : World V σ} :
      l.read w.outside w.store.path = .ok bytes →
      EnvText.parseBytes l.environment bytes = .ok m →
      l.revised w.store.registry.revision m w = (.ok m', left) →
      Ends w (.ok (), { left with store := { left.store with settings := some m' } })

theorem ends (w : World V σ) : l.Ends w (l.load w) := by
  rw [load_eq]
  cases hread : l.read w.outside w.store.path with
  | error fault => exact .unread (by rw [hread]; rfl)
  | ok bytes =>
      cases hparse : EnvText.parseBytes l.environment bytes with
      | error fault =>
          have hcontent : loadContent l.environment w.store.path (.ok bytes) =
              .error (.read w.store.path (.text fault)) := by
            rw [loadContent, hparse]
            rfl
          simp only [hcontent]
          exact .unread (by rw [hread, hcontent])
      | ok m =>
          have hcontent : loadContent l.environment w.store.path (.ok bytes) = .ok m := by
            rw [loadContent, hparse]
            rfl
          simp only [hcontent]
          rcases hrevised : l.revised w.store.registry.revision m w with ⟨result, left⟩
          cases result with
          | ok m' => exact .installed hread hparse hrevised
          | error p =>
              cases hrevision : w.store.registry.revision with
              | none => simp [revised, hrevision] at hrevised
              | some r =>
                  rw [hrevision] at hrevised
                  exact .panicked hrevision hrevised

/-- Revisions neither load the store nor bind it to another file. What else they do is open. -/
def Aloof : Prop := ∀ r m w, (l.revise r m w).2.store.settings = w.store.settings ∧
  (l.revise r m w).2.store.path = w.store.path

def Pure : Prop :=
  ∃ f : V.Revision → Settings → Except Panic Settings, ∀ r m w, l.revise r m w = (f r m, w)

variable {l} {w : World V σ}

theorem Pure.revised (hl : l.Pure) (r : Option V.Revision) (m : Settings) :
    ∃ result, ∀ w, l.revised r m w = (result, w) := by
  obtain ⟨f, hf⟩ := hl
  cases r with
  | none => exact ⟨.ok m, fun _ => rfl⟩
  | some r => exact ⟨f r m, hf r m⟩

theorem Pure.fresh (hl : l.Pure) (w : World V σ) : (l.fresh w).2 = w := by
  obtain ⟨f, hf⟩ := hl
  rcases l.world_fresh w with hleft | ⟨r, m, -, hleft⟩
  · exact hleft
  · rw [hleft, hf]

theorem Pure.load_eq (hl : l.Pure) (w : World V σ) : l.load w =
    match (l.fresh w).1 with
    | .ok m => (.ok (), { w with store := { w.store with settings := some m } })
    | .error e => (.error e, w)
    | .panic p => (.panic p, w) := by
  have hleft := hl.fresh w
  rcases hfresh : l.fresh w with ⟨result, left⟩
  rw [hfresh] at hleft
  obtain rfl : left = w := hleft
  rw [load, hfresh]
  cases result <;> rfl

theorem Pure.path_load (hl : l.Pure) (w : World V σ) :
    (l.load w).2.store.path = w.store.path := by
  rw [hl.load_eq]
  cases (l.fresh w).1 <;> rfl

theorem Pure.registry_load (hl : l.Pure) (w : World V σ) :
    (l.load w).2.store.registry = w.store.registry := by
  rw [hl.load_eq]
  cases (l.fresh w).1 <;> rfl

theorem Pure.outside_load (hl : l.Pure) (w : World V σ) : (l.load w).2.outside = w.outside := by
  rw [hl.load_eq]
  cases (l.fresh w).1 <;> rfl

theorem Pure.fresh_eq (hl : l.Pure) {w' : World V σ} (hpath : w'.store.path = w.store.path)
    (hrevision : w'.store.registry.revision = w.store.registry.revision)
    (hread : l.read w'.outside w.store.path = l.read w.outside w.store.path) :
    (l.fresh w').1 = (l.fresh w).1 := by
  obtain ⟨f, hf⟩ := hl
  exact Loader.fresh_eq l hpath hrevision hread fun r m _ => by rw [hf, hf]

theorem Aloof.revised (hl : l.Aloof) {r : Option V.Revision} {m : Settings}
    {result : Except Panic Settings} {left : World V σ}
    (h : l.revised r m w = (result, left)) :
    left.store.settings = w.store.settings ∧ left.store.path = w.store.path := by
  cases r with
  | none =>
      obtain rfl := (Prod.mk.inj h).2
      exact ⟨rfl, rfl⟩
  | some r =>
      have hkept := hl r m w
      rw [show l.revise r m w = (result, left) from h] at hkept
      exact hkept

theorem Aloof.path_load (hl : l.Aloof) (w : World V σ) :
    (l.load w).2.store.path = w.store.path := by
  have hends := l.ends w
  generalize l.load w = loaded at hends
  cases hends with
  | unread => rfl
  | panicked _ hrevised => exact (hl.revised (r := some _) hrevised).2
  | installed _ _ hrevised => exact (hl.revised hrevised).2

/-- A load that does not succeed leaves the settings, and the world as it is or as the revision
left it. -/
theorem Aloof.load_of_failed (hl : l.Aloof) (h : (l.load w).1 ≠ .ok ()) :
    (l.load w).2.store.settings = w.store.settings ∧ ((l.load w).2 = w ∨ ∃ r m p,
      w.store.registry.revision = some r ∧ l.revise r m w = (.error p, (l.load w).2)) := by
  have hends := l.ends w
  generalize l.load w = loaded at hends h
  cases hends with
  | unread => exact ⟨rfl, .inl rfl⟩
  | panicked hrevision hrevise =>
      exact ⟨(hl.revised (r := some _) hrevise).1, .inr ⟨_, _, _, hrevision, hrevise⟩⟩
  | installed => exact absurd rfl h

theorem load_of_ok (h : (l.load w).1 = .ok ()) : ∃ bytes m m',
    l.read w.outside w.store.path = .ok bytes ∧ EnvText.parseBytes l.environment bytes = .ok m ∧
      (l.revised w.store.registry.revision m w).1 = .ok m' ∧
      (l.load w).2.store.settings = some m' := by
  have hends := l.ends w
  generalize l.load w = loaded at hends h
  cases hends with
  | unread => cases h
  | panicked => cases h
  | installed hread hparse hrevised =>
      exact ⟨_, _, _, hread, hparse, congrArg Prod.fst hrevised, rfl⟩

theorem load_of_unread {e : LoadError}
    (h : loadContent l.environment w.store.path (l.read w.outside w.store.path) = .error e)
    (revise : V.Revision → Settings → World V σ → Except Panic Settings × World V σ) :
    { l with revise := revise }.load w = (.error e, w) := by
  rw [load_eq, h]

end Loader

end LiveConfig
