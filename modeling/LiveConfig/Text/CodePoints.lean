/-!
Sets of characters, written as tables of hexadecimal code points.

A table is a text of entries with blanks and line ends between them. In a table of a set an entry
is a code point or a closed range `A-B`.
-/

set_option autoImplicit false

namespace LiveConfig.Text

def ofHexDigits (l : List Char) : Nat :=
  l.foldl (fun n c => 16 * n + (c.toNat - if c.isDigit then 48 else 55)) 0

def tableEntries (table : String) : List (List Char) :=
  (table.toList.splitOnP fun c => c == ' ' || c == '\n').filter (· ≠ [])

/-- The ends of a range, which are equal if it is a single code point. -/
def rangeOfEntry (entry : List Char) : Nat × Nat :=
  match entry.splitOn '-' with
  | [first, last] => (ofHexDigits first, ofHexDigits last)
  | _ => (ofHexDigits entry, ofHexDigits entry)

/-- A set of characters, as closed ranges of code points. -/
abbrev CodePoints := List (Nat × Nat)

namespace CodePoints

def ofTable (table : String) : CodePoints := (tableEntries table).map rangeOfEntry

def holds (s : CodePoints) (c : Char) : Bool := s.any fun r => r.1 ≤ c.toNat && c.toNat ≤ r.2

end CodePoints

example : CodePoints.ofTable "A-1F 2C" = [(10, 31), (44, 44)] := by decide

end LiveConfig.Text
