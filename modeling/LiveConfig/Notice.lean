import LiveConfig.Text.Summary
/-!
Notices: failures that no caller hears of. Each has a severity, a message and named fields.
-/

set_option autoImplicit false

namespace LiveConfig

/-- A failure worth a line in the log of the process. -/
inductive Notice where
  | reloadFailed (path error : String)
  | tickLost (error : String)
  | actionFailed (action error : String)
  | closeFailed (container : String) (generation : Nat) (error : String)
  | spawnFailed (container error : String)
  | writeFailed (container error : String)
deriving DecidableEq, Repr

namespace Notice

def isError : Notice → Bool
  | reloadFailed .. | tickLost .. | actionFailed .. | spawnFailed .. => true
  | closeFailed .. | writeFailed .. => false

def message : Notice → String
  | reloadFailed .. => "config reload error"
  | tickLost .. => "reload tick did not complete"
  | actionFailed .. => "shutdown action failed"
  | closeFailed .. => "failed to close superseded object"
  | spawnFailed .. => "failed to spawn disposal thread, superseded object left unclosed"
  | writeFailed .. => "failed to write log record"

def fields : Notice → List (String × String)
  | reloadFailed path error => [("path", Text.quote path), ("error", error)]
  | tickLost error => [("error", error)]
  | actionFailed action error => [("action", action), ("error", error)]
  | closeFailed container generation error =>
      [("container", container), ("generation", toString generation), ("error", error)]
  | spawnFailed container error | writeFailed container error =>
      [("container", container), ("error", error)]

end Notice

end LiveConfig
