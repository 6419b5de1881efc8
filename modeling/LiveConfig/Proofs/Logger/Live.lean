import LiveConfig.Logger.Serving
import LiveConfig.Proofs.Container.Leases
import LiveConfig.Proofs.Container.Exits
import LiveConfig.Proofs.Logger.Making
/-!
Live loggers: the logger of a container is the one that its config would make.

An update resets only what differs from the config in force. As that config would make the logger
as it is, the reset does what making the logger anew would do; and what it does not take in, the
container does not store.
-/

set_option autoImplicit false

namespace LiveConfig.Logger

variable {σ : Type}

namespace Serving

/-- The callbacks of a container of loggers while every fetch gives `fetched`. -/
def answering (part : Focus σ Outside) (fetched : Outcome String Config) :
    Callbacks Logger Config σ :=
  callbacks part fun w => (fetched, w)

/-- The containers that serve a logger, with their worlds. Between updates the logger is leased,
and others may do as they like with what it writes to if they leave its output open. -/
inductive Reached (part : Focus σ Outside) : Serving → σ → Prop
  | built {name : String} {fetched : Outcome String Config} {w w' : σ} {c : Serving} :
      Container.build name (answering part fetched) w = (.ok c, w') → Reached part c w'
  | updated {c : Serving} {w : σ} (fetched : Outcome String Config) : Reached part c w →
      Reached part (Container.update (answering part fetched) c w).container
        (Container.update (answering part fetched) c w).world
  | leased {c c' : Serving} {w : σ} {generation : Nat} : Reached part c w →
      c.lease? = .ok (generation, c') → Reached part c' w
  | returned {c : Serving} {w : σ} (fetched : Outcome String Config) (generation : Nat) :
      Reached part c w →
      Reached part (Container.giveBack (answering part fetched) c generation w).container
        (Container.giveBack (answering part fetched) c generation w).world
  | closed {c : Serving} {w : σ} (fetched : Outcome String Config) : Reached part c w →
      Reached part (Container.close (answering part fetched) c w).container
        (Container.close (answering part fetched) c w).world
  | elsewhere {c : Serving} {w w' : σ} : Reached part c w →
      (part.get w).Leaves c.config.output (part.get w') → Reached part c w'

variable {part : Focus σ Outside} {c : Serving} {w : σ}

/-! ### What an update does -/

theorem update_of_failed (hopen : c.isClosed = false) (f : CallFailure) :
    Container.update (answering part f.outcome) c w = ⟨f.surfaced .fetch, c, w, []⟩ := by
  cases f <;> simp [Container.update, answering, callbacks, hopen]

theorem update_of_same (hopen : c.isClosed = false) :
    Container.update (answering part (.ok c.config)) c w = ⟨.ok .keep, c, w, []⟩ := by
  simp [Container.update, answering, callbacks, hopen, Config.compare]

theorem update_of_made (hopen : c.isClosed = false)
    (made : make c.config (part.get w) = .ok (c.current.object, part.get w)) {new : Config}
    (hnew : c.config ≠ new) {l : Logger} {o : Outside}
    (hmake : make new (part.get w) = .ok (l, o)) :
    Container.update (answering part (.ok new)) c w =
      ⟨.ok .reset, (c.withObject l).install new, part.set o w, []⟩ := by
  rw [← reset_eq_make made] at hmake
  simp only [Container.update, answering, callbacks, hopen, Config.compare, hnew, if_false,
    Bool.false_eq_true, Container.applyReset]
  simp only [resetIn, hmake]

theorem update_of_not_made (hopen : c.isClosed = false)
    (made : make c.config (part.get w) = .ok (c.current.object, part.get w)) {new : Config}
    {e : LoggerError} (hmake : make new (part.get w) = .error e) :
    Container.update (answering part (.ok new)) c w =
      ⟨.error (.reset e.message), c, w, []⟩ := by
  have hnew : c.config ≠ new := by
    rintro rfl
    rw [made] at hmake
    exact absurd hmake nofun
  rw [← reset_eq_make made] at hmake
  simp only [Container.update, answering, callbacks, hopen, Config.compare, hnew, if_false,
    Bool.false_eq_true, Container.applyReset]
  simp only [resetIn, hmake]
  rfl

/-! ### What every container of loggers keeps -/

/-- The logger is the first of its container, and is what the config in force would make until it
is closed. -/
structure AsMade (part : Focus σ Outside) (c : Serving) (w : σ) : Prop where
  first : c.generation = 1
  made : c.phase ≠ .closed → make c.config (part.get w) = .ok (c.current.object, part.get w)
  drops : c.phase = .closed → c.current.object.output = .closed

namespace AsMade

theorem built (lawful : part.Lawful) {name : String} {fetched : Outcome String Config} {w' : σ}
    (h : Container.build name (answering part fetched) w = (.ok c, w')) : AsMade part c w' := by
  obtain ⟨config, l, w₁, -, hmake, rfl⟩ := Container.build_eq_ok_iff.mp h
  refine ⟨rfl, fun _ => ?_, fun hphase => by cases hphase⟩
  change construct part config w₁ = _ at hmake
  rcases hmade : make config (part.get w₁) with e | ⟨l', o⟩
  · simp [construct, hmade] at hmake
  · simp only [construct, hmade, Prod.mk.injEq, Outcome.ok.injEq] at hmake
    obtain ⟨rfl, rfl⟩ := hmake
    change make config (part.get (part.set o w₁)) = .ok (l', part.get (part.set o w₁))
    rw [lawful.get_set]
    exact make_again hmade

theorem elsewhere (h : AsMade part c w) {w' : σ}
    (hleaves : (part.get w).Leaves c.config.output (part.get w')) : AsMade part c w' :=
  ⟨h.first, fun hphase => make_of_leaves (h.made hphase) hleaves, h.drops⟩

theorem made_of_open (h : AsMade part c w) (hopen : c.isClosed = false) :
    make c.config (part.get w) = .ok (c.current.object, part.get w) :=
  h.made (Container.phase_ne_closed hopen)

theorem updated (lawful : part.Lawful) (h : AsMade part c w) (fetched : Outcome String Config) :
    AsMade part (Container.update (answering part fetched) c w).container
      (Container.update (answering part fetched) c w).world := by
  cases hclosed : c.isClosed with
  | true => simpa [Container.update, hclosed] using h
  | false =>
      have hmade := h.made_of_open hclosed
      rcases fetched.failed_or_ok with ⟨f, rfl⟩ | ⟨new, rfl⟩
      · rw [update_of_failed hclosed]
        exact h
      by_cases hnew : c.config = new
      · subst hnew
        rw [update_of_same hclosed]
        exact h
      rcases hmake : make new (part.get w) with e | ⟨l, o⟩
      · rw [update_of_not_made hclosed hmade hmake]
        exact h
      · rw [update_of_made hclosed hmade hnew hmake]
        refine ⟨h.first, fun _ => ?_, fun hphase => ?_⟩
        · change make new (part.get (part.set o w)) = .ok (l, part.get (part.set o w))
          rw [lawful.get_set]
          exact make_again hmake
        · exact absurd (show c.phase = .closed from hphase)
            (Container.phase_ne_closed hclosed)

theorem leased (h : AsMade part c w) {c' : Serving} {generation : Nat}
    (hlease : c.lease? = .ok (generation, c')) : AsMade part c' w := by
  cases hclosed : c.isClosed with
  | true => rw [Container.lease?_of_closed hclosed] at hlease; exact absurd hlease nofun
  | false =>
      rw [Container.lease?_of_open hclosed, Except.ok.injEq, Prod.mk.injEq] at hlease
      rw [← hlease.2]
      exact ⟨h.first, h.made, h.drops⟩

theorem returned (h : AsMade part c w) (fetched : Outcome String Config) (generation : Nat) :
    AsMade part (Container.giveBack (answering part fetched) c generation w).container
      (Container.giveBack (answering part fetched) c generation w).world := by
  by_cases hg : c.generation = generation
  · by_cases hlast : c.phase = .draining ∧ c.unleased.leases = 0
    · rw [Container.giveBack_last hg hlast.1 hlast.2]
      exact ⟨h.first, fun hphase => absurd rfl hphase, fun _ => rfl⟩
    · rw [Container.giveBack_current hg hlast]
      exact ⟨h.first, h.made, h.drops⟩
  · obtain ⟨w', closings, hstep, hworld⟩ :=
      Container.giveBack_superseded (answering part fetched) w hg
    -- loggers close without a trace
    have hsame : w' = w := by
      rcases hworld with hsame | ⟨_, hsame⟩ <;> exact hsame
    rw [hstep, hsame]
    exact ⟨h.first, h.made, h.drops⟩

theorem closed (h : AsMade part c w) (fetched : Outcome String Config) :
    AsMade part (Container.close (answering part fetched) c w).container
      (Container.close (answering part fetched) c w).world := by
  cases hclosed : c.isClosed with
  | true =>
      rw [Container.close_of_closed hclosed]
      exact h
  | false =>
      have hmade := h.made_of_open hclosed
      by_cases hidle : c.leases = 0
      · rw [Container.close_of_idle hclosed hidle]
        exact ⟨h.first, fun hphase => absurd rfl hphase, fun _ => rfl⟩
      · rw [Container.close_of_leased hclosed hidle]
        exact ⟨h.first, fun _ => hmade, fun hphase => by cases hphase⟩

end AsMade

theorem Reached.asMade (lawful : part.Lawful) (h : Reached part c w) : AsMade part c w := by
  induction h with
  | built hbuild => exact .built lawful hbuild
  | updated fetched _ ih => exact ih.updated lawful fetched
  | leased _ hlease ih => exact ih.leased hlease
  | returned fetched generation _ ih => exact ih.returned fetched generation
  | closed fetched _ ih => exact ih.closed fetched
  | elsewhere _ hleaves ih => exact ih.elsewhere hleaves

/-- A logger that lives through updates is the one that would be made from the config in force: it
has the level and the output of that config, and it is still the first of its container. An update
takes a config in exactly if a logger can be made from it; one that fails changes nothing at all,
so the config in force asks for nothing when it is fetched again. -/
theorem live_logger_as_made (lawful : part.Lawful) (reached : Reached part c w) :
    c.generation = 1 ∧
    (c.phase ≠ .closed → make c.config (part.get w) = .ok (c.current.object, part.get w) ∧
      readLevel c.config.level = .ok c.current.object.level ∧
      (part.get w).open c.config.output = .ok (c.current.object.output, part.get w)) ∧
    (c.isClosed = false →
      Container.update (answering part (.ok c.config)) c w = ⟨.ok .keep, c, w, []⟩) ∧
    ∀ fetched, let s := Container.update (answering part fetched) c w
      ((∀ d, s.result ≠ .ok d) → s.container = c ∧ s.world = w) ∧
      (c.isClosed = false → ∀ new, fetched = .ok new →
        match make new (part.get w) with
        | .ok (l, o) => s.result = .ok (c.config.compare new) ∧ s.container.config = new ∧
            s.container.current.object = l ∧ part.get s.world = o
        | .error e => s.result = .error (.reset e.message)) := by
  have h := reached.asMade lawful
  refine ⟨h.first, fun hphase => ?_, update_of_same, fun fetched => ?_⟩
  · obtain ⟨hlevel, hopen⟩ := make_eq_ok_iff.mp (h.made hphase)
    exact ⟨h.made hphase, hlevel, hopen⟩
  cases hclosed : c.isClosed with
  | true =>
      have hstays : Container.update (answering part fetched) c w = ⟨.error .closed, c, w, []⟩ := by
        simp [Container.update, hclosed]
      rw [hstays]
      refine ⟨fun _ => ⟨rfl, rfl⟩, fun hopen => ?_⟩
      cases hopen
  | false =>
      have hmade := h.made_of_open hclosed
      rcases fetched.failed_or_ok with ⟨f, rfl⟩ | ⟨new, rfl⟩
      · rw [update_of_failed hclosed]
        exact ⟨fun _ => ⟨rfl, rfl⟩, fun _ new hnew => by cases f <;> cases hnew⟩
      by_cases hnew : c.config = new
      · subst hnew
        rw [update_of_same hclosed]
        refine ⟨fun hfailed => absurd rfl (hfailed .keep), fun _ new hnew => ?_⟩
        obtain rfl := Outcome.ok.inj hnew
        rw [hmade]
        exact ⟨by simp [Config.compare], rfl, rfl, rfl⟩
      rcases hmake : make new (part.get w) with e | ⟨l, o⟩
      · rw [update_of_not_made hclosed hmade hmake]
        refine ⟨fun _ => ⟨rfl, rfl⟩, fun _ other hother => ?_⟩
        obtain rfl := Outcome.ok.inj hother
        rw [hmake]
      · rw [update_of_made hclosed hmade hnew hmake]
        refine ⟨fun hfailed => absurd rfl (hfailed .reset), fun _ other hother => ?_⟩
        obtain rfl := Outcome.ok.inj hother
        rw [hmake]
        exact ⟨by simp [Config.compare, hnew], rfl, rfl, lawful.get_set o w⟩

private def streaming : Serving := .fresh "log" ⟨.upTo .info, .stderr⟩ ⟨"info", "STDERR"⟩

/-- A new level does not come into force when the new output cannot be opened. -/
theorem live_logger_as_made_unopenable :
    let o : Outside := { files := .start ["work"], time := "" }
    let s :=
      Container.update (answering (.whole Outside) (.ok ⟨"trace", "none/app.log"⟩)) streaming o
    s.result =
        .error (.reset "open log file none/app.log: No such file or directory (os error 2)") ∧
      s.container = streaming ∧ s.world = o := by
  intro o s
  have reached : Reached (.whole Outside) streaming o :=
    @Reached.built Outside (.whole Outside) "log" (.ok ⟨"info", "STDERR"⟩) o _ _ rfl
  have hresult : s.result =
      .error (.reset "open log file none/app.log: No such file or directory (os error 2)") := rfl
  have hfailed := ((live_logger_as_made (Focus.lawful_whole Outside) reached).2.2.2
    (.ok ⟨"trace", "none/app.log"⟩)).1
  exact ⟨hresult, hfailed fun d => by rw [hresult]; exact nofun⟩

end Serving

end LiveConfig.Logger
