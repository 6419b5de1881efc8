import LiveConfig.Store.Basic
/-!
Loading, and the reload tick.

A load reads the file, parses it, revises the settings and only then installs them, so a load
that fails installs nothing. A revision may do to the store what hooks do. A tick loads and then
runs what was registered when the load was done:
the hooks before, the updaters, the hooks after. An updater that fails is reported before the next
one runs. A panic ends the tick where it happens.
-/

set_option autoImplicit false

namespace LiveConfig

variable {V : Vocabulary} {σ : Type}

/-- The settings that a load would install, and the world as the revision leaves it. -/
def Loader.fresh (l : Loader V σ) (w : World V σ) : Outcome LoadError Settings × World V σ :=
  match loadContent l.environment w.store.path (l.read w.outside w.store.path) with
  | .error e => (.error e, w)
  | .ok m =>
      match w.store.registry.revision with
      | none => (.ok m, w)
      | some r =>
          match l.revise r m w with
          | (.ok m, w) => (.ok m, w)
          | (.error p, w) => (.panic p.message, w)

def Loader.load (l : Loader V σ) (w : World V σ) : Outcome LoadError Unit × World V σ :=
  match l.fresh w with
  | (.ok m, w) => (.ok (), { w with store := { w.store with settings := some m } })
  | (.error e, w) => (.error e, w)
  | (.panic p, w) => (.panic p, w)

namespace Host

variable (h : Host V σ)

/-- Passes an error to the handler in force, or to the log if there is none. -/
def report (e : StoreError) (w : World V σ) : Except Panic Unit × World V σ :=
  match w.store.registry.handler with
  | some handler => h.handle handler e w
  | none => (.ok (), h.note (.reloadFailed w.store.path e.message) w)

def runHooks : List V.Hook → World V σ → Except Panic Unit × World V σ
  | [], w => (.ok (), w)
  | hook :: rest, w =>
      match h.hook hook w with
      | (.ok (), w) => runHooks rest w
      | (.error p, w) => (.error p, w)

/-- Runs one updater and reports its failure; the answer is whether it failed. -/
def runUpdater (u : V.Updater) (w : World V σ) : Except Panic Bool × World V σ :=
  match h.update u w with
  | (.ok (), w) => (.ok false, w)
  | (.panic p, w) => (.error ⟨p⟩, w)
  | (.error reason, w) =>
      let (reported, w) := h.report (.update (h.nameOf u w) reason) w
      (reported.map fun _ => true, w)

/-- Runs updaters in order and counts those that fail. -/
def runUpdaters : List V.Updater → World V σ → Except Panic Nat × World V σ
  | [], w => (.ok 0, w)
  | u :: rest, w =>
      match h.runUpdater u w with
      | (.error p, w) => (.error p, w)
      | (.ok failed, w) =>
          let (count, w) := runUpdaters rest w
          (count.map (· + failed.toNat), w)

/-- Runs what a registry holds, as after a load. -/
def runRegistered (r : Registry V) (w : World V σ) : Except Panic Nat × World V σ :=
  match h.runHooks r.before w with
  | (.error p, w) => (.error p, w)
  | (.ok (), w) =>
      match h.runUpdaters r.updaters w with
      | (.error p, w) => (.error p, w)
      | (.ok failed, w) =>
          let (finished, w) := h.runHooks r.after w
          (finished.map fun _ => failed, w)

/-- One reload tick; the answer is the number of errors it reported. -/
def reload (w : World V σ) : Except Panic Nat × World V σ :=
  match h.load w with
  | (.panic p, w) => (.error ⟨p⟩, w)
  | (.error e, w) =>
      let (reported, w) := h.report (.load e) w
      (reported.map fun _ => 1, w)
  | (.ok (), w) => h.runRegistered w.store.registry w

end Host

end LiveConfig
