import LiveConfig.Container.Basic
import LiveConfig.Schema
/-!
The settings of an HTTP client: times in whole seconds, where zero lifts the limit, and the number
of idle connections to one host.
-/

set_option autoImplicit false

namespace LiveConfig.Http

structure Config where
  dialTimeout : Nat := 10
  keepAlive : Nat := 30
  maxIdlePerHost : Nat := 32
  idleTimeout : Nat := 90
  requestTimeout : Nat := 0
deriving DecidableEq, Repr, Inhabited

namespace Config

/-- The keys `<PREFIX>_HTTP_*`; only the dial timeout is required, the others keep what the target
holds. -/
def schema (keyPrefix : String) : Schema Config :=
  (Schema.empty.required (keyPrefix ++ "_HTTP_DIAL_TIMEOUT") (.int ⟨false, .w64⟩)
      fun v c => { c with dialTimeout := v.toNat })
    |>.optional (keyPrefix ++ "_HTTP_KEEP_ALIVE") (.int ⟨false, .w64⟩)
      (fun v c => { c with keepAlive := v.toNat })
    |>.optional (keyPrefix ++ "_HTTP_MAX_IDLE_PER_HOST") (.int ⟨false, .size⟩)
      (fun v c => { c with maxIdlePerHost := v.toNat })
    |>.optional (keyPrefix ++ "_HTTP_IDLE_TIMEOUT") (.int ⟨false, .w64⟩)
      (fun v c => { c with idleTimeout := v.toNat })
    |>.optional (keyPrefix ++ "_HTTP_TIMEOUT") (.int ⟨false, .w64⟩)
      fun v c => { c with requestTimeout := v.toNat }

def summary (c : Config) : String :=
  Text.summary "HttpClientConfig"
    [("dial_timeout_secs", toString c.dialTimeout), ("keep_alive_secs", toString c.keepAlive),
      ("max_idle_per_host", toString c.maxIdlePerHost),
      ("idle_timeout_secs", toString c.idleTimeout),
      ("request_timeout_secs", toString c.requestTimeout)] false

def compare (old new : Config) : Decision := if old = new then .keep else .replace

end Config

end LiveConfig.Http
