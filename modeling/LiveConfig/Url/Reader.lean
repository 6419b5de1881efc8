import LiveConfig.Text.Blank
import LiveConfig.Url.Basic
/-!
Reading addresses.

A scheme, an authority behind two slashes, a path, a query and a fragment follow one another. In
the schemes of the web a backslash is a slash, there is always a path, and all but files need a
host. Names of a path that mean "here" or "up" are worked in as they are read.
-/

set_option autoImplicit false

namespace LiveConfig.Url

/-- An address without blanks and control characters around it and line ends within. -/
def clean (s : String) : List Char :=
  let idle (c : Char) : Bool := c.toNat ≤ 32
  let l := s.toList.dropWhile idle
  let l := (l.reverse.dropWhile idle).reverse
  l.filter fun c => !(c == '\t' || c == '\n' || c == '\r')

def scheme? (l : List Char) : Option (String × List Char) :=
  let inScheme (c : Char) : Bool := c.isAlphanum || ['+', '-', '.'].contains c
  match l.head?, l.dropWhile inScheme with
  | some first, ':' :: rest =>
      if first.isAlpha then some (Text.lower (String.ofList (l.takeWhile inScheme)), rest)
      else none
  | _, _ => none

def isSlash (special : Bool) (c : Char) : Bool := c == '/' || (special && c == '\\')

def splitTail (l : List Char) : List Char × Option (List Char) × Option (List Char) :=
  let (front, fragment) :=
    match l.dropWhile (· ≠ '#') with
    | [] => (l, none)
    | _ :: f => (l.takeWhile (· ≠ '#'), some f)
  match front.dropWhile (· ≠ '?') with
  | [] => (front, none, fragment)
  | _ :: q => (front.takeWhile (· ≠ '?'), some q, fragment)

def isHere (name : String) : Bool := [".", "%2e"].contains (Text.lower name)

def isUp (name : String) : Bool := ["..", ".%2e", "%2e.", "%2e%2e"].contains (Text.lower name)

/-- The letter of a drive, if a text is one with a colon or a bar behind it. -/
def drive? (l : List Char) : Option Char :=
  match l with
  | [c, mark] => if c.isAlpha ∧ (mark = ':' ∨ mark = '|') then some c else none
  | _ => none

def isDrive (name : String) : Bool := (drive? name.toList).isSome

/-- The path above a path; a drive is not left. -/
def above (names : List String) : List String :=
  if names.getLast?.any isDrive then names else names.dropLast

/-- Adds a name to a path; the last name leaves a slash behind where it adds none. -/
def addName (names : List String) (name : String) (last : Bool) : List String :=
  let closed (names : List String) : List String := if last then names ++ [""] else names
  if isUp name then closed (above names)
  else if isHere name then closed names
  else names ++ [name]

def addNames : List String → List String → List String
  | names, [] => names
  | names, [name] => addName names name true
  | names, name :: rest => addNames (addName names name false) rest

def splitNames (special : Bool) (l : List Char) : List (List Char) :=
  l.splitOnP (isSlash special)

/-- Reads a path of names; it starts at its first slash. -/
def readNames (special : Bool) (l : List Char) : List String :=
  let l :=
    match l with
    | c :: rest => if isSlash special c then rest else l
    | [] => l
  addNames [] ((splitNames special l).map fun name => String.ofList (escape inPath name))

private def readPath (special : Bool) (l : List Char) : Path :=
  if l = [] ∧ !special then .segments [] else .segments (readNames special l)

/-- The path of a file, and whether it is on a drive. A drive is written with a colon. -/
def readFileNames (l : List Char) : List String × Bool :=
  let names := readNames true l
  match names with
  | [] => ([""], false)
  | name :: rest =>
      match drive? name.toList with
      | some c => (String.ofList [c, ':'] :: rest, true)
      | none =>
          match names.dropWhile (· = "") with
          | [] => ([""], false)
          | kept => (kept, false)

private def finish (u : Url) (query fragment : Option (List Char)) : Url :=
  let inQ := if isSpecial u.scheme then inSpecialQuery else inQuery
  { u with
    query := query.map fun q => String.ofList (escape inQ q)
    fragment := fragment.map fun f => String.ofList (escape inFragment f) }

def splitUser (l : List Char) : Option (List Char) × List Char :=
  match l.reverse.dropWhile (· ≠ '@') with
  | [] => (none, l)
  | _ :: user => (some user.reverse, (l.reverse.takeWhile (· ≠ '@')).reverse)

/-- Splits the port off a host; a colon within brackets does not count. -/
def splitPort : Bool → List Char → List Char × Option (List Char)
  | _, [] => ([], none)
  | inside, c :: l =>
      if c = ':' ∧ !inside then ([], some l)
      else
        let (host, port) := splitPort (c = '[' ∨ (inside ∧ c ≠ ']')) l
        (c :: host, port)

/-- Reads a port; one that goes without saying is left out. -/
def readPort? (scheme : String) : List Char → Option (Option Nat)
  | [] => some none
  | l =>
      let n := l.foldl (fun n c => 10 * n + (c.toNat - 48)) 0
      if !l.all Char.isDigit ∨ n > 65535 then none
      else some (if defaultPort? scheme = some n then none else some n)

private def withUser (u : Url) (user : List Char) : Url :=
  let name := user.takeWhile (· ≠ ':')
  let password :=
    match user.dropWhile (· ≠ ':') with
    | [] | [_] => none
    | _ :: p => some (String.ofList (escape inUser p))
  { u with
    user := String.ofList (escape inUser name)
    password := password }

/-- Reads what follows the two slashes of an authority. Behind a port a backslash is no part of the
authority, whatever the scheme. -/
private def readAuthority? (scheme : String) (l : List Char) : Option Url := do
  let special := isSpecial scheme
  let (front, query, fragment) := splitTail l
  let authority := front.takeWhile (!isSlash special ·)
  let path := front.dropWhile (!isSlash special ·)
  let (user, rest) := splitUser authority
  let (hostText, portText) := splitPort false rest
  let u : Url := ({ scheme } : Url).withUser (user.getD [])
  let ended := path = [] ∧ query.isNone ∧ fragment.isNone
  let hasUser := u.user ≠ "" ∨ u.password.isSome ∨ (user = some [] ∧ !ended)
  if hostText = [] ∧ (special ∨ hasUser ∨ portText.isSome) then none
  let host ← if special then Host.read? hostText else Host.readPlain? hostText
  let portText := portText.getD []
  let port ← readPort? scheme (portText.takeWhile (· ≠ '\\'))
  let path := readPath special (portText.dropWhile (· ≠ '\\') ++ path)
  return finish { u with host, port, path } query fragment

/-- Reads what follows the scheme of a file. A drive in the place of a host is part of the path. -/
private def readFile? (l : List Char) : Option Url := do
  let (front, query, fragment) := splitTail l
  let (hostText, path) :=
    match front with
    | a :: b :: rest =>
        if isSlash true a ∧ isSlash true b then
          let hostText := rest.takeWhile (!isSlash true ·)
          if (drive? hostText).isSome then ([], rest)
          else (hostText, rest.dropWhile (!isSlash true ·))
        else ([], front)
    | _ => ([], front)
  let host ← if hostText = [] then some Host.empty else Host.read? hostText
  let (names, onDrive) := readFileNames path
  let host := if onDrive ∨ host = .domain "localhost" then .empty else host
  return finish { scheme := "file", host, path := .segments names } query fragment

def read? (s : String) : Option Url := do
  let (scheme, l) ← scheme? (clean s)
  if scheme = "file" then readFile? l
  else if isSpecial scheme then readAuthority? scheme (l.dropWhile (isSlash true))
  else
    match l with
    | '/' :: '/' :: rest => readAuthority? scheme rest
    | '/' :: _ =>
        let (front, query, fragment) := splitTail l
        some (finish { scheme, path := readPath false front } query fragment)
    | _ =>
        let (front, query, fragment) := splitTail l
        let path := .rootless (String.ofList (escape isControl front))
        some (finish { scheme, path } query fragment)

example : (read? "FOO://Host:80/a/./../b c?q=1#f").map text = some "foo://Host:80/b%20c?q=1#f" := by
  decide +kernel
example : (read? "file:/c|/x/../../..").map text = some "file:///c:/" := by decide +kernel
example : (read? "http://").isNone := by decide +kernel

end LiveConfig.Url
