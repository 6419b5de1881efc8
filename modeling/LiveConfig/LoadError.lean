import LiveConfig.EnvText.Basic
import LiveConfig.FileTree
import LiveConfig.Schema
/-!
Why settings cannot be had from a file, from a text or for a target.
-/

set_option autoImplicit false

namespace LiveConfig

inductive ReadFault where
  | file (fault : FileFault)
  | text (fault : EnvText.Fault)
deriving DecidableEq, Repr

def ReadFault.message : ReadFault → String
  | file fault => fault.message
  | text fault => fault.message

/-- Why settings cannot be loaded or decoded. -/
inductive LoadError where
  | read (path : String) (fault : ReadFault)
  | parse (fault : EnvText.Fault)
  | decode (e : DecodeError)
deriving DecidableEq, Repr

def LoadError.message : LoadError → String
  | read path fault => "read env file " ++ path ++ ": " ++ fault.message
  | parse fault => "parse env text: " ++ fault.message
  | decode e => e.message

def loadText (env : EnvText.Environment) (text : String) : Except LoadError Settings :=
  (EnvText.parse env text).mapError .parse

/-- The settings of what reading the file at `path` gave. -/
def loadContent (env : EnvText.Environment) (path : String) (content : Except FileFault ByteArray) :
    Except LoadError Settings :=
  match content with
  | .error fault => .error (.read path (.file fault))
  | .ok bytes => (EnvText.parseBytes env bytes).mapError fun fault => .read path (.text fault)

end LiveConfig
