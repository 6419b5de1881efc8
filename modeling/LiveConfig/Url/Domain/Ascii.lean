import LiveConfig.Url.Domain.Direction
import LiveConfig.Url.Domain.Joining
import LiveConfig.Url.Domain.Mapping
import LiveConfig.Url.Domain.Punycode
/-!
The ASCII form of a domain.

The characters are replaced one by one and composed, and the text is cut at its dots. A label
beyond ASCII is written in Punycode behind the mark `xn--`; a label that bears the mark already
must be the written form of such a label. If one label runs from the right to the left, or holds
Arabic numbers, all must keep together.
-/

set_option autoImplicit false

namespace LiveConfig.Url.Domain

def mark : List Char := ['x', 'n', '-', '-']

def longestLabel : Nat := 1000

def longestCode : Nat := 2000

/-- A label: what it reads, and its ASCII form. -/
structure Label where
  text : List Char
  ascii : List Char
deriving DecidableEq, Repr

def isAscii (l : List Char) : Bool := l.all (·.toNat < 128)

/-- Whether no mark is without a letter and no joining character out of place. -/
def isSound (l : List Char) : Bool := !(l.head?.any marks.holds) && joinersFit [] l

def Label.ofCode? (code : List Char) : Option Label := do
  if code.length > longestCode then none
  let text ← Punycode.decode? code
  let isFaithful := Text.composed text = text && text.all isPlain
  if isAscii text || mark.isPrefixOf text || !isFaithful || !isSound text then none
  else some ⟨text, mark ++ code⟩

def Label.read? (l : List Char) : Option Label :=
  match mark.isPrefixOf? l with
  | some code => if isAscii code then ofCode? code else none
  | none =>
      if isAscii l then some ⟨l, l⟩
      else if l.length > longestLabel || !isSound l then none
      else some ⟨l, mark ++ Punycode.encode l⟩

def ascii? (l : List Char) : Option (List Char) := do
  let mapped ← l.mapM mapped?
  let labels ← ((Text.composed mapped.flatten).splitOn '.').mapM Label.read?
  let turned := labels.any fun label => label.text.any turns
  if turned ∧ !labels.all (keepsTogether ·.text) then none
  else some (List.intercalate ['.'] (labels.map (·.ascii)))

end LiveConfig.Url.Domain
