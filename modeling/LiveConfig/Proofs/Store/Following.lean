import LiveConfig.Proofs.Change.Telling
import LiveConfig.Store.Watching
/-!
A watched store at work, move by move.

Others act on files at any time, and the directory tells the watch. The watch takes what it is told
and sends changes when bursts end, and a reload tick is taken for each, one after the other. Every
move leaves the rest as it is, so that what was told, sent or read may be outdated by the next.
-/

set_option autoImplicit false

namespace LiveConfig

variable {V : Vocabulary} {σ : Type}

/-- How far the answer to what a watch sent has come. -/
inductive Tick where
  | idle
  | answering (output : WatchOutput)
  | loaded (result : Outcome LoadError Settings)
  | installed
  /-- The handler of errors panicked at a failure of the watch; nothing is answered any more. -/
  | ended

/-- A watched store with what was told but not yet taken by the watch, and what was sent but not yet
answered. It is `renewed` once its file was created, written or renamed onto. -/
structure Following (V : Vocabulary) (σ : Type) where
  world : World V σ
  now : Nat := 0
  inputs : List WatchInput := []
  outputs : List WatchOutput := []
  tick : Tick := .idle
  renewed : Bool := false

inductive Move where
  | act (action : FileAction)
  /-- The source of events fails. -/
  | fail (message : String)
  | wait (time : Nat)
  /-- The watch takes what it is told next. -/
  | take
  /-- The clock of the watch ticks. -/
  | ring
  /-- The answer to what the watch sent goes on. -/
  | advance

/-- What is left of a tick that is over; one that panicked is noted. -/
def Host.endTick {α : Type} (h : Host V σ) : Except Panic α × World V σ → World V σ
  | (.ok _, w) => w
  | (.error p, w) => h.note (.tickLost ("task panicked with message " ++ Text.quote p.message)) w

namespace Following

def act (files : Focus σ FileTree) (s : Following V σ) (a : FileAction) : Following V σ :=
  let t := files.get s.world.outside
  match s.world.store.watch, a.onFiles t, a.apply t with
  | some watch, true, .ok (t', events) =>
      { s with
        world := { s.world with outside := files.set t' s.world.outside }
        inputs := s.inputs ++ (events.filterMap watch.rawEvent?).map .raw
        renewed := s.renewed || a.renews t watch.name }
  | _, _, _ => s

def feed (s : Following V σ) (input : WatchInput) : Following V σ :=
  match s.world.store.watch with
  | none => s
  | some watch =>
      let (watch, sent) := watch.receive [(s.now, input)]
      { s with
        world := { s.world with store := { s.world.store with watch := some watch } }
        outputs := s.outputs ++ sent }

/-- The answer to what the watch sent goes on: a change is answered by reading the file as it is
then, installing what was read and revised, and running what is registered. -/
def advance (h : Host V σ) (s : Following V σ) : Following V σ :=
  match s.tick with
  | .idle =>
      match s.outputs with
      | [] => s
      | output :: rest => { s with outputs := rest, tick := .answering output }
  | .answering (.failed message) =>
      match h.report (.watching (.source message)) s.world with
      | (.ok _, w) => { s with world := w, tick := .idle }
      | (.error _, w) => { s with world := w, tick := .ended }
  | .answering (.changed _) =>
      let (result, w) := h.fresh s.world
      { s with world := w, tick := .loaded result }
  | .loaded (.ok m) =>
      { s with
        world := { s.world with store := { s.world.store with settings := some m } }
        tick := .installed }
  | .loaded (.error e) => { s with world := h.endTick (h.report (.load e) s.world), tick := .idle }
  | .loaded (.panic p) =>
      { s with world := h.endTick (α := Unit) (.error ⟨p⟩, s.world), tick := .idle }
  | .installed =>
      { s with world := h.endTick (h.runRegistered s.world.store.registry s.world), tick := .idle }
  | .ended => s

def move (h : Host V σ) (files : Focus σ FileTree) (s : Following V σ) : Move → Following V σ
  | .act a => s.act files a
  | .fail message => { s with inputs := s.inputs ++ [.failure message] }
  | .wait time => { s with now := s.now + time }
  | .take =>
      match s.inputs with
      | [] => s
      | input :: rest => { s with inputs := rest }.feed input
  | .ring => s.feed .tick
  | .advance => s.advance h

def after (h : Host V σ) (files : Focus σ FileTree) (s : Following V σ) (moves : List Move) :
    Following V σ := moves.foldl (move h files) s

/-- Nothing is left to take, to send, to answer or to finish. -/
structure Quiet (s : Following V σ) : Prop where
  inputs : s.inputs = []
  pending : ∀ watch, s.world.store.watch = some watch → watch.pending = none
  outputs : s.outputs = []
  tick : s.tick = .idle

theorem after_induction {h : Host V σ} {files : Focus σ FileTree} {P : Following V σ → Prop}
    (keeps : ∀ s m, P s → P (s.move h files m)) {s : Following V σ} (start : P s)
    (moves : List Move) : P (s.after h files moves) := by
  induction moves generalizing s with
  | nil => exact start
  | cons m rest ih => exact ih (keeps s m start)

theorem advance_failed (h : Host V σ) {s : Following V σ} {message : String}
    (htick : s.tick = .answering (.failed message)) :
    ∃ tick, (tick = .idle ∨ tick = .ended) ∧
      s.advance h = { s with
        world := (h.report (.watching (.source message)) s.world).2
        tick := tick } := by
  rcases hreport : h.report (.watching (.source message)) s.world with ⟨reported, w⟩
  cases reported with
  | ok _ => exact ⟨.idle, .inl rfl, by simp only [advance, htick, hreport]⟩
  | error p => exact ⟨.ended, .inr rfl, by simp only [advance, htick, hreport]⟩

/-! ### Answers without other moves in between -/

theorem endTick_map (h : Host V σ) {α β : Type} (f : α → β) (result : Except Panic α)
    (w : World V σ) : h.endTick (result.map f, w) = h.endTick (result, w) := by
  cases result <;> rfl

theorem answer_changed (h : Host V σ) (w : World V σ) (c : Change) :
    h.answer w (.changed c) = h.endTick (h.reload w) := by
  rcases hreload : h.reload w with ⟨result, w'⟩
  cases result <;> simp only [Host.answer, hreload, Host.endTick]

/-- The moves of an answer come to what the host answers, unless the handler of errors panics at a
failure of the watch. -/
theorem after_advance (h : Host V σ) (files : Focus σ FileTree) {s : Following V σ}
    {output : WatchOutput} {rest : List WatchOutput} (hidle : s.tick = .idle)
    (houtputs : s.outputs = output :: rest)
    (hreport : ∀ message, output = .failed message →
      (h.report (.watching (.source message)) s.world).1 = .ok ()) : ∃ n,
      s.after h files (List.replicate n .advance) =
        { s with world := h.answer s.world output, outputs := rest } := by
  obtain ⟨world, now, inputs, outputs, tick, renewed⟩ := s
  subst hidle houtputs
  cases output with
  | failed message =>
      refine ⟨2, ?_⟩
      rcases hrun : h.report (.watching (.source message)) world with ⟨reported, w⟩
      obtain rfl : reported = .ok () := by simpa [hrun] using hreport message rfl
      simp only [Host.answer, hrun]
      simp only [after, List.replicate, List.foldl_cons, List.foldl_nil, move, advance, hrun]
  | changed c =>
      rcases hfresh : h.fresh world with ⟨result, w⟩
      cases result with
      | ok m =>
          refine ⟨4, ?_⟩
          simp only [answer_changed, Host.reload, Loader.load, hfresh]
          simp only [after, List.replicate, List.foldl_cons, List.foldl_nil, move, advance, hfresh]
      | error e =>
          refine ⟨3, ?_⟩
          simp only [answer_changed, Host.reload, Loader.load, hfresh]
          simp only [after, List.replicate, List.foldl_cons, List.foldl_nil, move, advance, hfresh,
            endTick_map]
      | panic p =>
          refine ⟨3, ?_⟩
          simp only [answer_changed, Host.reload, Loader.load, hfresh]
          simp only [after, List.replicate, List.foldl_cons, List.foldl_nil, move, advance, hfresh]
          rfl

end Following

end LiveConfig
