import LiveConfig.Service.Follower
/-!
What the codes of a service mean, and so what its reload ticks do.
-/

set_option autoImplicit false

namespace LiveConfig.Service

/-- The value behind the mark `enc:` is written backwards. -/
def reveal (value : String) : String :=
  let mark := "enc:".toList
  if mark.isPrefixOf value.toList then String.ofList (value.toList.drop mark.length).reverse
  else value

def Revision.apply (r : Revision) (m : Settings) : Settings :=
  match r with
  | reveal => m.mapValues Service.reveal
  | set key value => m.insert key value
  | drop key => m.erase key
  | clear => ∅

/-- How a service loads: from its files, in an empty process environment. -/
def loader : Loader vocabulary Outside where
  read := fun o path => o.streams.files.read path
  environment := fun _ => none
  revise := fun r m s => (.ok (r.apply m), s)

def load (s : Service) : Outcome StoreError Unit × Service :=
  let (result, s) := loader.load s
  (result.mapError .load, s)

def react (r : Reaction) (s : Service) : Except Panic Unit × Service :=
  match r with
  | .look tag key loads =>
      let s := s.tell (.looked tag ((s.store.get key).toOption.bind id))
      if loads then
        match s.load with
        | (.ok (), s) => (.ok (), s.tell (.loaded true))
        | (.error _, s) => (.ok (), s.tell (.loaded false))
        | (.panic m, s) => (.error ⟨m⟩, s)
      else (.ok (), s)
  | .panicOn key =>
      match s.store.get key with
      | .ok (some value) => (.error ⟨value⟩, s)
      | _ => (.ok (), s)

def perform (job : Job) (s : Service) : Outcome String Unit × Service :=
  match job with
  | .nothing => (.ok (), s)
  | .fail message => (.error message, s)
  | .read key =>
      match s.store.get key with
      | .error e => (.error e.message, s)
      | .ok v => (.ok (), s.tell (.read v))
  | .decode =>
      match s.store.decoded Server.schema {} with
      | .error e => (.error e.message, s)
      | .ok server => (.ok (), s.tell (.decoded server))
  | .load text =>
      let (result, s) := (Service.writeFile s s.store.path text.toUTF8).load
      (result.mapError StoreError.message, s)
  | .push tag => (.ok (), s.setStore (s.store.addUpdater (.job tag "updater" .nothing)))

def runUpdater (u : Updater) (s : Service) : Outcome String Unit × Service :=
  match u with
  | .job tag _ job => perform job (s.tell (.updated tag))
  | .follower place =>
      match s.outside.followers[place]? with
      | none => (.ok (), s)
      | some f =>
          let (result, s) := updateFollower place f s
          ((result.map fun _ => ()).mapError ContainerError.message, s)

def updaterName (u : Updater) (s : Service) : String :=
  match u with
  | .job _ name _ => name
  | .follower place => ((s.outside.followers[place]?).map Follower.name).getD ""

def host : Host vocabulary Outside where
  toLoader := loader
  hook := react
  update := runUpdater
  nameOf := updaterName
  handle := fun tag e s => (.ok (), Service.tell s (.failed tag e))
  note := fun n s => Service.note s [n]

end LiveConfig.Service
