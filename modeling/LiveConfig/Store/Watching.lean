import LiveConfig.Store.Reload
/-!
A store that reloads while its file changes.

At most one watch is in force. Every change that it sends runs one reload tick, and every failure
that it sends is reported. A tick that panics is noted, and watching goes on.
-/

set_option autoImplicit false

namespace LiveConfig

variable {V : Vocabulary} {σ : Type}

namespace Store

/-- Starts to watch the file of the store, unless it is being watched. -/
def startWatching (s : Store V) (hasRuntime : Bool) (t : FileTree) (debounce : Debounce) :
    Except StoreError (Store V) :=
  if s.isWatching then .error .alreadyWatching
  else
    match Watch.start hasRuntime t s.path debounce with
    | .ok watch => .ok { s with watch := some watch }
    | .error e => .error (.watch e)

def stopWatching (s : Store V) : Store V := { s with watch := none }

end Store

namespace Host

variable (h : Host V σ)

def answer (w : World V σ) : WatchOutput → World V σ
  | .changed _ =>
      match h.reload w with
      | (.ok _, w) => w
      | (.error p, w) =>
          h.note (.tickLost ("task panicked with message " ++ Text.quote p.message)) w
  | .failed message =>
      (h.report (.watching (.source message)) w).2

def receive (w : World V σ) (inputs : List (Nat × WatchInput)) : World V σ × List WatchOutput :=
  match w.store.watch with
  | none => (w, [])
  | some watch =>
      let (watch, sent) := watch.receive inputs
      let w : World V σ := { w with store := { w.store with watch := some watch } }
      (sent.foldl h.answer w, sent)

end Host

end LiveConfig
