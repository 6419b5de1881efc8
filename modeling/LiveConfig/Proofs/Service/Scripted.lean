import LiveConfig.Proofs.Container.Exits
import LiveConfig.Proofs.Store.Loaded
import LiveConfig.Service.Reload
/-!
The hooks, updaters and handlers of a service as scripts.

So what holds of stores with scripts holds of services, whose hooks and updaters load the store,
write its file and register more.
-/

set_option autoImplicit false

namespace LiveConfig

namespace Service

variable {α : Type}

def telling (e : Event) (next : Script vocabulary Outside α) : Script vocabulary Outside α :=
  .look fun s => .change (Service.tell s e).outside next

def Reaction.script : Reaction → Script vocabulary Outside (Except Panic Unit)
  | .look tag key loads => .look fun s =>
      telling (.looked tag ((s.store.get key).toOption.bind id)) <|
        if loads then
          .load fun
            | .ok () => telling (.loaded true) (.done (.ok ()))
            | .error _ => telling (.loaded false) (.done (.ok ()))
            | .panic m => .done (.error ⟨m⟩)
        else .done (.ok ())
  | .panicOn key => .look fun s =>
      match s.store.get key with
      | .ok (some value) => .done (.error ⟨value⟩)
      | _ => .done (.ok ())

def Job.script : Job → Script vocabulary Outside (Outcome String Unit)
  | .nothing => .done (.ok ())
  | .fail message => .done (.error message)
  | .read key => .look fun s =>
      match s.store.get key with
      | .error e => .done (.error e.message)
      | .ok v => telling (.read v) (.done (.ok ()))
  | .decode => .look fun s =>
      match s.store.decoded Server.schema {} with
      | .error e => .done (.error e.message)
      | .ok server => telling (.decoded server) (.done (.ok ()))
  | .load text => .look fun s =>
      .change (Service.writeFile s s.store.path text.toUTF8).outside <|
        .load fun loaded => .done ((loaded.mapError .load).mapError StoreError.message)
  | .push tag => .register (.updater (.job tag "updater" .nothing)) (.done (.ok ()))

def Updater.script : Updater → Script vocabulary Outside (Outcome String Unit)
  | .job tag _ work => telling (.updated tag) work.script
  | .follower place => .look fun s =>
      match s.outside.followers[place]? with
      | none => .done (.ok ())
      | some f =>
          .change (updateFollower place f s).2.outside <|
            .done (((updateFollower place f s).1.map fun _ => ()).mapError ContainerError.message)

def scripts : Scripts vocabulary Outside where
  toLoader := loader
  hook := Reaction.script
  update := Updater.script
  nameOf := updaterName
  handle := fun tag e => telling (.failed tag e) (.done (.ok ()))
  note := fun n => .look fun s => .change (Service.note s [n]).outside (.done ())

theorem run_telling (e : Event) (next : Script vocabulary Outside α) (s : Service) :
    (telling e next).run loader s = next.run loader (Service.tell s e) := rfl

theorem run_reaction (r : Reaction) (s : Service) : r.script.run loader s = react r s := by
  cases r with
  | panicOn key =>
      rw [Reaction.script, Script.run_look, react]
      rcases s.store.get key with e | (_ | value) <;> rfl
  | look tag key loads =>
      cases loads with
      | false => rfl
      | true =>
          rw [Reaction.script, Script.run_look, run_telling, if_pos rfl, Script.run_load]
          simp only [react, Service.load, if_true]
          generalize Service.tell s (.looked tag ((s.store.get key).toOption.bind id)) = s'
          rcases loader.load s' with ⟨loaded, s₁⟩
          cases loaded <;> rfl

theorem run_job (job : Job) (s : Service) : job.script.run loader s = perform job s := by
  cases job with
  | nothing | fail message | load text | push tag => rfl
  | read key =>
      rw [Job.script, Script.run_look, perform]
      rcases s.store.get key with e | v <;> rfl
  | decode =>
      rw [Job.script, Script.run_look, perform]
      rcases s.store.decoded Server.schema {} with e | server <;> rfl

/-! ### Followers -/

section

variable (store : Store vocabulary)

theorem keeps_pool (key : String) : (poolCallbacks key).Keeps fun s => s.store = store where
  fetch := by
    intro seen s hs
    simp only [poolCallbacks]
    split <;> exact hs
  compare := by
    rintro compare ⟨⟩ seen old new s hs
    exact hs
  construct := fun _ _ _ hs => hs
  reset := by
    rintro reset ⟨⟩ seen object old new s hs
    exact hs
  close := fun _ _ hs => hs
  spawn := fun _ _ hs => hs

theorem keeps_logger (p : String) : (loggerCallbacks p).Keeps fun s => s.store = store where
  fetch := fun _ _ hs => hs
  compare := by
    rintro compare ⟨⟩ seen old new s hs
    exact hs
  construct := by
    intro seen config s hs
    simp only [loggerCallbacks, Logger.callbacks, Logger.construct]
    split <;> exact hs
  reset := by
    rintro reset ⟨⟩ seen object old new s hs
    simp only [Logger.resetIn]
    split <;> exact hs
  close := fun _ _ hs => hs
  spawn := fun _ _ hs => hs

theorem keeps_client (p : String) : (clientCallbacks p).Keeps fun s => s.store = store where
  fetch := fun _ _ hs => hs
  compare := by
    rintro compare ⟨⟩ seen old new s hs
    exact hs
  construct := fun _ _ _ hs => hs
  reset := nofun
  close := fun _ _ hs => hs
  spawn := fun _ _ hs => hs

end

theorem store_updateFollower (place : Nat) (f : Follower) (s : Service) :
    (updateFollower place f s).2.store = s.store := by
  cases f with
  | pool key c => exact Container.update_keeps (keeps_pool s.store key) c rfl
  | logger p c => exact Container.update_keeps (keeps_logger s.store p) c rfl
  | client p c => exact Container.update_keeps (keeps_client s.store p) c rfl

theorem run_updater (u : Updater) (s : Service) : u.script.run loader s = runUpdater u s := by
  cases u with
  | job tag name job => exact run_job job (Service.tell s (.updated tag))
  | follower place =>
      rw [Updater.script, Script.run_look, runUpdater]
      cases s.outside.followers[place]? with
      | none => rfl
      | some f =>
          have hstore := store_updateFollower place f s
          change (_, World.mk s.store (updateFollower place f s).2.outside) =
            (_, (updateFollower place f s).2)
          rw [← hstore]
          rfl

/-- A service is a store with scripts. -/
theorem host_scripts : scripts.host = host := by
  have hhook : scripts.host.hook = host.hook := by
    funext r s
    exact run_reaction r s
  have hupdate : scripts.host.update = host.update := by
    funext u s
    exact run_updater u s
  unfold Scripts.host at hhook hupdate ⊢
  simp only at hhook hupdate
  rw [hhook, hupdate]
  rfl

private def rewriting : Service where
  store := { path := "/work/app.env", registry := { updaters := [.job "w" "writer" (.load "V=2")] } }
  outside := { streams := { files := .start ["work"], time := "" } }

/-- The tick loads twice, and the load of the updater has the last word. -/
example : let s := Service.writeFile rewriting "/work/app.env" "V=1".toUTF8
    (s.loads loader (scripts.reload.deeds loader s)).length = 2 ∧
      ((scripts.host.reload s).2.store.get "V").toOption = some (some "2") := by
  decide +kernel

end Service

end LiveConfig
