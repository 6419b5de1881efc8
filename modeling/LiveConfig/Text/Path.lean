/-!
File paths as text: segments between slashes.

Empty segments and `.` segments name nothing, except that a leading slash names the root and a
leading `.` the place a relative path starts from. The file name of a path is its last segment
that names something, so a trailing slash or `/.` does not hide it.
-/

set_option autoImplicit false

namespace LiveConfig.Path

/-- The texts between slashes, in order; a text without a slash is one segment. -/
def split : List Char → List (List Char)
  | [] => [[]]
  | '/' :: l => [] :: split l
  | c :: l =>
      match split l with
      | [] => [[c]]
      | s :: rest => (c :: s) :: rest

/-- What one segment of a path stands for. -/
inductive Component where
  | root
  | here
  | up
  | name (text : List Char)
deriving DecidableEq, Repr

/-- What a segment behind the first stands for; idle ones stand for nothing. -/
def inner (s : List Char) : Option Component :=
  if s = [] ∨ s = ['.'] then none
  else if s = ['.', '.'] then some .up
  else some (.name s)

def components (p : String) : List Component :=
  match split p.toList with
  | [] => []
  | first :: rest =>
      let start :=
        if first = [] then (if rest.isEmpty then [] else [.root])
        else if first = ['.'] then [.here]
        else (inner first).toList
      start ++ rest.filterMap inner

def isAbsolute (p : String) : Bool := p.toList.head? == some '/'

def fileName? (p : String) : Option String :=
  match (components p).getLast? with
  | some (.name n) => some (String.ofList n)
  | _ => none

def idle (s : List Char) : Bool := s == [] || s == ['.']

/-- Segments without those at the end that name nothing; the first may mark the root or the
start and stays. -/
def dropIdleEnd : List (List Char) → List (List Char)
  | [] => []
  | first :: rest => first :: (rest.reverse.dropWhile idle).reverse

/-- The path up to its last component, as written; a path of no component and the root have
none. -/
def parent? (p : String) : Option String :=
  match dropIdleEnd (split p.toList) with
  | [] | [[]] => none
  | [_] => some ""
  | segments =>
      match dropIdleEnd segments.dropLast with
      | [[]] => some "/"
      | kept => some (String.ofList (List.intercalate ['/'] kept))

/-- Appends a segment, with a slash between unless the path ends in one. -/
def join (p : String) (segment : String) : String :=
  if p.toList.getLast? == some '/' || p.isEmpty then p ++ segment else p ++ "/" ++ segment

/-- The path of a file beside the one at a path; a path from the root stays as it is. -/
def sibling (p name : String) : String :=
  match parent? p with
  | some parent => if isAbsolute name then name else join parent name
  | none => name

private def segmentText : Component → Option String
  | .root => none
  | .here => some "."
  | .up => some ".."
  | .name n => some (String.ofList n)

/-- The path as it reads from the root, when relative paths start at `cwd`: idle segments go,
`..` stays, a trailing slash stays, and so do exactly two leading slashes. The empty path names
nothing. -/
def absolute? (cwd p : String) : Option String :=
  let start :=
    if isAbsolute p then
      match p.toList with
      | '/' :: '/' :: '/' :: _ => "/"
      | '/' :: '/' :: _ => "//"
      | _ => "/"
    else cwd
  let body := ((components p).filter (· ≠ .here)).filterMap segmentText
  let path := if body.isEmpty then start else join start ("/".intercalate body)
  if p.isEmpty then none
  else if p.toList.getLast? == some '/' then some (join path "")
  else some path

example : fileName? "/tmp/app.env/." = some "app.env" := by decide
example : parent? "a//b/c/" = some "a//b" := by decide
example : absolute? "/w" "./a//../b/" = some "/w/a/../b/" := by decide

end LiveConfig.Path
