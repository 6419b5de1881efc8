import LiveConfig.Container.Follow
import LiveConfig.Container.Leasing
import LiveConfig.Teardown.Basic
/-!
Tasks: actions of a teardown chain, written as data.

A task keeps a journal, may push further tasks, look at the length of the chain and run the chain,
and ends as it is told to. Another kind of task closes a container, which fails if the container
was closed before the task was pushed.
-/

set_option autoImplicit false

namespace LiveConfig.Teardown

abbrev Journal := List String

inductive Task where
  | steps (name : String) (pushes : List Task) (counts reruns : Bool) (ending : Outcome String Unit)
  | closing (name : String) (early : Bool)
deriving Inhabited

namespace Task

def name : Task → String
  | steps name .. | closing name _ => name

private def note (line : String) (w : Journal) : Journal := w ++ [line]

/-- The callbacks of a container that only tells when its object is closed. -/
private def quietCallbacks (name : String) : Callbacks Unit Unit Journal where
  fetch := fun _ w => (.ok (), w)
  compare := none
  construct := fun _ _ w => (.ok (), w)
  reset := none
  close := fun o w => (.ok (), o, note ("closed " ++ name) w)
  spawn := fun _ w => (.ok (), w)

private def quietContainer (name : String) : Container Unit Unit :=
  ⟨name, ⟨(), ⟨0, ()⟩, 1, 0⟩, [], .serving, 1, []⟩

/-- Closes a container; how that ended, and the container afterwards. -/
private def closeQuiet (name : String) (c : Container Unit Unit) (w : Journal) :
    Outcome String Unit × Container Unit Unit × Journal :=
  let s := c.close (quietCallbacks name) w
  match s.result with
  | .done outcome => (outcome.mapError ContainerError.message, s.container, s.world)
  | .pending => (.ok (), s.container, s.world)

def prepare : Task → Journal → Journal
  | closing name true, w => (closeQuiet name (quietContainer name) w).2.2
  | _, w => w

private def closeRoutine (name : String) (early : Bool) : Routine Journal :=
  let c := quietContainer name
  let c := if early then (closeQuiet name c []).2.1 else c
  .finish fun w =>
    let (result, _, w) := closeQuiet name c w
    (result, w)

/-- The end of a task, after what it pushed. -/
private def lastSteps (counts reruns : Bool) (ending : Outcome String Unit) : Routine Journal :=
  let last : Routine Journal := .finish fun w => (ending, w)
  let last :=
    if reruns then .run (fun n => note ("nested run " ++ toString n)) last else last
  if counts then .size (fun n => note ("len " ++ toString n)) last else last

mutual

def routine : Task → Routine Journal
  | steps name pushes counts reruns ending =>
      .act (note ("run " ++ name)) (pushAll pushes (lastSteps counts reruns ending))
  | closing name early => closeRoutine name early

def pushAll : List Task → Routine Journal → Routine Journal
  | [], last => last
  | t :: rest, last => .act t.prepare (.push t.name t.routine (pushAll rest last))

end

def pushOnto (t : Task) (chain : Teardown Journal) : Teardown Journal := chain.push t.name t.routine

end Task

end LiveConfig.Teardown
