import LiveConfig.Text.Blank
/-!
Logical lines of an env text.

A physical line ends at a line feed. A logical line is a run of physical lines: it goes on while a
quote is open, after an escape, and when the text ends in a blank. A `#` after a blank, outside
quotes, cuts the logical line there, and a logical line whose first visible character is `#` is
dropped as soon as that shows.
-/

set_option autoImplicit false

namespace LiveConfig.EnvText

def physicalLines : List Char → List (List Char)
  | [] => []
  | c :: l =>
      if c = '\n' then [c] :: physicalLines l
      else
        match physicalLines l with
        | [] => [[c]]
        | line :: rest => (c :: line) :: rest

/-- The physical lines that can be read, and whether one that is no UTF-8 stands behind them. -/
structure Source where
  lines : List (List Char)
  broken : Bool

def Source.ofText (s : String) : Source := ⟨physicalLines s.toList, false⟩

private def byteLines : List UInt8 → List (List UInt8)
  | [] => []
  | b :: l =>
      if b = 10 then [b] :: byteLines l
      else
        match byteLines l with
        | [] => [[b]]
        | line :: rest => (b :: line) :: rest

private def readable : List (List UInt8) → List (List Char)
  | [] => []
  | line :: rest =>
      match String.fromUTF8? ⟨line.toArray⟩ with
      | some s => s.toList :: readable rest
      | none => []

def Source.ofBytes (content : ByteArray) : Source :=
  match String.fromUTF8? content with
  | some s => Source.ofText s
  | none => ⟨readable (byteLines content.data.toList), true⟩

/-- Where the splitter stands within a logical line. -/
inductive LineMode where
  | complete
  | blank
  | escape
  | strong
  | strongEscape
  | weak
  | weakEscape
deriving DecidableEq, Repr

namespace LineMode

private def opening (c : Char) : Option LineMode :=
  if c = '\\' then some escape
  else if c = '"' then some weak
  else if c = '\'' then some strong
  else none

/-- One character further; `none` at a `#` that cuts the line. -/
def step? : LineMode → Char → Option LineMode
  | complete, c =>
      if Text.isBlank c ∧ c ≠ '\n' ∧ c ≠ '\r' then some blank
      else some ((opening c).getD complete)
  | blank, c => if c = '#' then none else some ((opening c).getD complete)
  | escape, _ => some complete
  | strong, c =>
      if c = '\\' then some strongEscape else if c = '\'' then some complete else some strong
  | strongEscape, _ => some strong
  | weak, c => if c = '\\' then some weakEscape else if c = '"' then some complete else some weak
  | weakEscape, _ => some weak

end LineMode

/-- What one physical line does to a logical line. -/
inductive Scan where
  /-- The line is cut; these characters of it are kept. -/
  | cut (kept : List Char)
  | reached (mode : LineMode)

def scan : LineMode → List Char → Scan
  | mode, [] => .reached mode
  | mode, c :: l =>
      match mode.step? c with
      | none => .cut []
      | some mode =>
          match scan mode l with
          | .cut kept => .cut (c :: kept)
          | .reached mode => .reached mode

/-- The characters without a line feed at their end, nor a carriage return before it. -/
def dropLineEnd : List Char → List Char
  | [] => []
  | ['\r', '\n'] => []
  | ['\n'] => []
  | c :: l => c :: dropLineEnd l

/-- How the reading of a logical line ended. -/
inductive LogicalLine where
  | done (text : List Char)
  /-- The text ended within the line. -/
  | unfinished (text : List Char)
  /-- The next physical line is no UTF-8. -/
  | unreadable
deriving DecidableEq

/-- The logical lines, in order: `text` is the line read so far and `mode` the state reached.
Nothing follows a line that could not be finished. -/
def logicalLines (broken : Bool) (text : List Char) (mode : LineMode) :
    List (List Char) → List LogicalLine
  | [] =>
      if broken then [.unreadable]
      else if mode = .complete then []
      else [.unfinished text]
  | line :: rest =>
      if (Text.trimStart (text ++ line)).head? = some '#' then
        .done [] :: logicalLines broken [] .complete rest
      else
        match scan mode line with
        | .cut kept => .done (text ++ kept) :: logicalLines broken [] .complete rest
        | .reached .complete =>
            .done (dropLineEnd (text ++ line)) :: logicalLines broken [] .complete rest
        | .reached mode => logicalLines broken (text ++ line) mode rest

def Source.logicalLines (s : Source) : List LogicalLine :=
  EnvText.logicalLines s.broken [] .complete s.lines

end LiveConfig.EnvText
