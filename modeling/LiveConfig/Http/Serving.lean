import LiveConfig.Container.Follow
import LiveConfig.Container.Leasing
import LiveConfig.Http.Client
/-!
A container that serves one client.

Every change of the settings needs a new client. An exchange that is under way keeps the client it
began with.
-/

set_option autoImplicit false

namespace LiveConfig.Http

variable {α σ : Type}

def callbacks (fetch : σ → Outcome String Config × σ) : Callbacks Client Config σ where
  fetch := fun _ w => fetch w
  compare := some fun _ old new w => (.ok (old.compare new), w)
  construct := fun _ _ w => (.ok {}, w)
  reset := none
  close := fun c w => (.ok (), c.close, w)
  spawn := fun _ w => (.ok (), w)

abbrev Serving := Container Client Config

namespace Serving

def withClient (c : Serving) (f : σ → Except Error α × σ) (w : σ) :
    Except Panic (Except Error α) × σ :=
  match c.lease? with
  | .error e => (.error ⟨c.leasePanic e⟩, w)
  | .ok _ =>
      let (result, w) := f w
      (.ok result, w)

def get (c : Serving) (net : Network σ) (d : Decoder α) (url : String)
    (query : List (String × String)) (w : σ) : Except Panic (Except Error α) × σ :=
  c.withClient (Client.get net d url query) w

def post (c : Serving) (net : Network σ) (d : Decoder α) (url : String) (body : Json) (w : σ) :
    Except Panic (Except Error α) × σ :=
  c.withClient (Client.post net d url body) w

end Serving

end LiveConfig.Http
