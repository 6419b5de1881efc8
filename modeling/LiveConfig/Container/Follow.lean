import LiveConfig.Container.Basic
/-!
Building a container, and letting it follow its config.

An update fetches a config, compares it with the one in force and then does nothing, resets the
object in place or replaces it. Until the object took the reset, or the new object exists, nothing
of the container changes; then all of it changes in one step. A replaced object without leases is
closed at once, any other when its last lease comes back, if there is a thread to close it.
-/

set_option autoImplicit false

namespace LiveConfig

variable {R C σ : Type}

/-- The callbacks, if the two that every container needs are there. -/
def Draft.callbacks (b : Draft R C σ) : Except ContainerError (Callbacks R C σ) :=
  match b.fetch, b.construct with
  | none, _ => .error (.missing .fetch)
  | _, none => .error (.missing .construct)
  | some fetch, some construct => .ok ⟨fetch, b.compare, construct, b.reset, b.close, b.spawn⟩

namespace Container

def build (name : String) (cb : Callbacks R C σ) (w : σ) :
    Outcome ContainerError (Container R C) × σ :=
  match cb.fetch none w with
  | (.error e, w) => (.error (.fetch e), w)
  | (.panic m, w) => (.panic m, w)
  | (.ok config, w) =>
      match cb.construct none config w with
      | (.error e, w) => (.error (.construct e), w)
      | (.panic m, w) => (.panic m, w)
      | (.ok object, w) => (.ok ⟨name, ⟨object, ⟨0, config⟩, 1, 0⟩, [], .serving, 1, []⟩, w)

def install (c : Container R C) (config : C) : Container R C :=
  { c with current := { c.current with config := ⟨c.stamps, config⟩ }, stamps := c.stamps + 1 }

/-- The container with another object in the place of its current one, which keeps its leases. -/
def withObject (c : Container R C) (object : R) : Container R C :=
  { c with current := { c.current with object } }

def supersede (c : Container R C) (object : R) (config : C) : Container R C :=
  { c with
    current := ⟨object, ⟨c.stamps, config⟩, c.generation + 1, 0⟩
    stamps := c.stamps + 1 }

/-- The container with a replaced slot, which stays for as long as it is leased. -/
def keep (c : Container R C) (old : Slot R C) : Container R C :=
  if old.leases = 0 then c else { c with superseded := c.superseded ++ [old] }

/-- The container that no thread closes a replaced object for. -/
def strand (c : Container R C) (generation : Nat) : Container R C :=
  { c with stranded := c.stranded ++ [generation] }

/-- Takes the current slot out of service after `next` has taken its place. The thread that is
started for it closes it now if nobody leases it, and waits otherwise. -/
def retire (cb : Callbacks R C σ) (old : Slot R C) (next : Container R C) (w : σ) :
    Container R C × σ × List Closing :=
  match cb.spawn old.object w with
  | (.error e, w) => ((next.keep old).strand old.generation, w, [.stranded old.generation e])
  | (.ok (), w) =>
      if old.leases = 0 then
        let (outcome, _, w) := cb.close old.object w
        (next, w, [.closed old.generation true outcome])
      else (next.keep old, w, [])

def applyReset (cb : Callbacks R C σ) (c : Container R C) (new : C) (w : σ) :
    Step R C σ (Outcome ContainerError Decision) :=
  match cb.reset with
  | none => ⟨.error (.missing .reset), c, w, []⟩
  | some reset =>
      match reset c.view c.current.object c.config new w with
      | (.ok (), object, w) => ⟨.ok .reset, (c.withObject object).install new, w, []⟩
      | (.error e, object, w) => ⟨.error (.reset e), c.withObject object, w, []⟩
      | (.panic m, object, w) => ⟨.panic m, c.withObject object, w, []⟩

def applyReplace (cb : Callbacks R C σ) (c : Container R C) (new : C) (w : σ) :
    Step R C σ (Outcome ContainerError Decision) :=
  match cb.construct (some c.view) new w with
  | (.error e, w) => ⟨.error (.construct e), c, w, []⟩
  | (.panic m, w) => ⟨.panic m, c, w, []⟩
  | (.ok object, w) =>
      let (c, w, closings) := retire cb c.current (c.supersede object new) w
      ⟨.ok .replace, c, w, closings⟩

def update (cb : Callbacks R C σ) (c : Container R C) (w : σ) :
    Step R C σ (Outcome ContainerError Decision) :=
  if c.isClosed then ⟨.error .closed, c, w, []⟩
  else
    match cb.compare with
    | none => ⟨.error (.missing .compare), c, w, []⟩
    | some compare =>
        match cb.fetch (some c.view) w with
        | (.error e, w) => ⟨.error (.fetch e), c, w, []⟩
        | (.panic m, w) => ⟨.panic m, c, w, []⟩
        | (.ok new, w) =>
            match compare c.view c.config new w with
            | (.error e, w) => ⟨.error (.compare e), c, w, []⟩
            | (.panic m, w) => ⟨.panic m, c, w, []⟩
            | (.ok .keep, w) => ⟨.ok .keep, c, w, []⟩
            | (.ok .reset, w) => applyReset cb c new w
            | (.ok .replace, w) => applyReplace cb c new w

end Container

end LiveConfig
