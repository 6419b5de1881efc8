import LiveConfig.Logger.Serving
import LiveConfig.Store.Read
import LiveConfig.Store.Watching
/-!
A demonstration: a process that prints its server settings, follows a file with a logger, and takes
itself down on a signal.

It writes the file, loads it, decodes the server, makes the logger, registers what has to be taken
down, and starts to watch. The logger is taken down before the watch, as it was registered later.
-/

set_option autoImplicit false

namespace LiveConfig.Demo

structure Server where
  name : String := ""
  port : Int := 0

namespace Server

def schema : Schema Server :=
  (Schema.empty.required "APP_NAME" .text fun v (s : Server) => { s with name := v })
    |>.required "APP_PORT" (.int ⟨false, .w16⟩) fun v s => { s with port := v }

def summary (s : Server) : String :=
  Text.summary "Server" [("name", Text.quote s.name), ("port", toString s.port)] false

end Server

def fileName : String := "example.env"

def content : String :=
  "APP_NAME=livehold-demo\nAPP_PORT=8080\nAPP_LOG_LEVEL=info\nAPP_LOG_OUTPUT=stdout\n"

/-- Nothing is registered with the store but the logger. -/
abbrev vocabulary : Vocabulary := ⟨Empty, Empty, Unit, Empty⟩

/-- What the process works on: its store, what it writes to, and its logger. -/
structure Process where
  store : Store vocabulary
  outside : Logger.Outside
  logger : Option Logger.Serving := none

private def loader (env : EnvText.Environment) : Loader vocabulary Logger.Outside where
  read := fun o path => o.files.read path
  environment := env
  revise := fun r => nomatch r

private def print (p : Process) (line : String) : Process :=
  { p with outside := { p.outside with stdout := p.outside.stdout ++ line ++ "\n" } }

private def fetch (p : Process) : Outcome String Logger.Config × Process :=
  match p.store.decoded (Logger.Config.schema "APP") {} with
  | .ok c => (.ok c, p)
  | .error e => (.error e.message, p)

private def loggerCallbacks : Callbacks Logger Logger.Config Process :=
  Logger.callbacks ⟨Process.outside, fun o p => { p with outside := o }⟩ fetch

private def closeStore : Routine Process :=
  .finish fun p => (.ok (), { p with store := p.store.stopWatching })

private def closeLogger : Routine Process :=
  .finish fun p =>
    match p.logger with
    | none => (.ok (), p)
    | some logger =>
        let s := logger.close loggerCallbacks p
        let p := { s.world with logger := some s.container }
        match s.result with
        | .done outcome => (outcome.mapError ContainerError.message, p)
        | .pending => (.ok (), p)

def teardown : Teardown Process :=
  (Teardown.push {} "config" closeStore).push "logger" closeLogger

def start (env : EnvText.Environment) (o : Logger.Outside) : Except String Process := do
  let files ← (o.files.write fileName content.toUTF8).mapError FileFault.message
  let store ← (Store.bind? ("/" ++ "/".intercalate files.cwd) fileName).mapError StoreError.message
  let p : Process := { store, outside := { o with files := files } }
  let p := print p ("Created " ++ fileName)
  let (loaded, w) := (loader env).load ⟨p.store, p.outside⟩
  match loaded with
  | .panic m => .error m
  | .error e => .error (StoreError.load e).message
  | .ok () => pure ()
  let p := { p with store := w.store }
  let server ← (p.store.decoded Server.schema {}).mapError StoreError.message
  let p := print p ("Initial server config: " ++ server.summary)
  let (built, p) := Container.build "logger" loggerCallbacks p
  let logger ←
    match built with
    | .ok c => Except.ok c
    | .error e => .error e.message
    | .panic m => .error m
  let p := { p with store := p.store.addUpdater (), logger := some logger }
  let store ← (p.store.startWatching true p.outside.files {}).mapError StoreError.message
  .ok (print { p with store := store }
    ("Watching " ++ fileName ++ "... (try APP_LOG_LEVEL=debug, Ctrl-C to quit)"))

/-- The process from its start to a signal that comes before the file changes. -/
def run (env : EnvText.Environment) (o : Logger.Outside) : Except String (Exit Process) := do
  .ok (teardown.exitAtSignal (← start env o))

end LiveConfig.Demo
