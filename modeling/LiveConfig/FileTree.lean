import LiveConfig.Text.Path
/-!
Files and directories as a value.

A node of the tree is a directory, a file or a device. The content of a file is kept apart under
the number of the file, so a writer that opened it goes on writing to the same file after its name
was removed or given to another. Names on the way to a node must be directories.

A path leads to a directory that it passes itself, when it ends in the root, `.` or `..`, or to a
name in a directory. A slash behind that name asks for a directory, so a file under the name does
not count and none is made there.
-/

set_option autoImplicit false

namespace LiveConfig

inductive FileFault where
  | notFound
  | busy
  | exists
  | otherDevice
  | notDirectory
  | isDirectory
  | invalid
  | noSpace
  | nameTooLong
  | notEmpty
  | nulInName
deriving DecidableEq, Repr

def FileFault.message : FileFault → String
  | notFound => "No such file or directory (os error 2)"
  | busy => "Device or resource busy (os error 16)"
  | «exists» => "File exists (os error 17)"
  | otherDevice => "Invalid cross-device link (os error 18)"
  | notDirectory => "Not a directory (os error 20)"
  | isDirectory => "Is a directory (os error 21)"
  | invalid => "Invalid argument (os error 22)"
  | noSpace => "No space left on device (os error 28)"
  | nameTooLong => "File name too long (os error 36)"
  | notEmpty => "Directory not empty (os error 39)"
  | nulInName => "file name contained an unexpected NUL byte"

inductive Node where
  | directory
  | file (id : Nat)
  /-- A device that takes everything and holds nothing. -/
  | sink
  /-- A device without room. -/
  | full
deriving DecidableEq, Repr

/-- The nodes under their absolute names, the contents of files under their numbers, and the
directory that relative paths start from. -/
structure FileTree where
  nodes : List (List String × Node)
  contents : List (Nat × ByteArray)
  cwd : List String

namespace FileTree

def standing : List (List String × Node) :=
  [([], .directory), (["dev"], .directory), (["dev", "null"], .sink), (["dev", "full"], .full)]

def start (cwd : List String) : FileTree where
  nodes := standing ++ (List.range cwd.length).map fun n => (cwd.take (n + 1), .directory)
  contents := []
  cwd := cwd

def node? (t : FileTree) (name : List String) : Option Node := t.nodes.lookup name

def content (t : FileTree) (id : Nat) : ByteArray := (t.contents.lookup id).getD .empty

def longestName : Nat := 255

inductive Spot where
  /-- A directory that the path passes itself. -/
  | passed (name : List String)
  /-- A name in a directory, and whether a slash follows it. -/
  | entry (parent : List String) (name : String) (slash : Bool)
deriving DecidableEq, Repr

def Spot.absolute : Spot → List String
  | .passed name => name
  | .entry parent name _ => parent ++ [name]

/-- Follows the segments of a path from a directory; `slash` tells whether one follows the last.
Only the last segment may stand for nothing. -/
def walk (t : FileTree) (slash : Bool) : List String → List String → Except FileFault Spot
  | here, [] => .ok (.passed here)
  | here, s :: rest =>
      match t.node? here with
      | none => .error .notFound
      | some .directory =>
          if s = "." then walk t slash here rest
          else if s = ".." then walk t slash here.dropLast rest
          else if rest = [] then .ok (.entry here s slash)
          else if s.utf8ByteSize > longestName then .error .nameTooLong
          else walk t slash (here ++ [s]) rest
      | some _ => .error .notDirectory

def locate (t : FileTree) (path : String) : Except FileFault Spot :=
  if Char.ofNat 0 ∈ path.toList then .error .nulInName
  else if path = "" then .error .notFound
  else if path.utf8ByteSize > 4095 then .error .nameTooLong
  else
    let start := if Path.isAbsolute path then [] else t.cwd
    let segments := (Path.split path.toList).filter (· ≠ [])
    t.walk (path.toList.getLast? = some '/') start (segments.map String.ofList)

def lookup (t : FileTree) : Spot → Except FileFault (Option Node)
  | .passed name => .ok (t.node? name)
  | .entry parent name _ =>
      if name.utf8ByteSize > longestName then .error .nameTooLong
      else .ok (t.node? (parent ++ [name]))

def find (t : FileTree) (path : String) : Except FileFault Node := do
  let spot ← t.locate path
  match spot, ← t.lookup spot with
  | _, none => .error .notFound
  | .entry _ _ true, some (.file _) | .entry _ _ true, some .sink | .entry _ _ true, some .full =>
      .error .notDirectory
  | _, some node => .ok node

def isDirectory (t : FileTree) (path : String) : Bool :=
  match t.find path with
  | .ok .directory => true
  | _ => false

def read (t : FileTree) (path : String) : Except FileFault ByteArray := do
  match ← t.find path with
  | .directory => .error .isDirectory
  | .file id => .ok (t.content id)
  | .sink | .full => .ok .empty

/-- The content of the file at a path as text, empty if it is none. -/
def text? (t : FileTree) (path : String) : Option String :=
  (t.read path).toOption.map fun bytes => (String.fromUTF8? bytes).getD ""

def bind (t : FileTree) (name : List String) (node : Node) : FileTree :=
  { t with nodes := (name, node) :: t.nodes.filter (·.1 ≠ name) }

def unbind (t : FileTree) (name : List String) : FileTree :=
  { t with nodes := t.nodes.filter (·.1 ≠ name) }

def setContent (t : FileTree) (id : Nat) (content : ByteArray) : FileTree :=
  { t with contents := (id, content) :: t.contents.filter (·.1 ≠ id) }

def freshId (t : FileTree) : Nat := t.contents.foldl (fun n e => max n (e.1 + 1)) 0

/-- Opens the file at a path for writing, and makes an empty one if there is none. -/
def openForWriting (t : FileTree) (path : String) : Except FileFault (Node × FileTree) := do
  let spot ← t.locate path
  match spot with
  | .passed _ | .entry _ _ true => .error .isDirectory
  | .entry _ _ false =>
      match ← t.lookup spot with
      | some .directory => .error .isDirectory
      | some node => .ok (node, t)
      | none =>
          let id := t.freshId
          .ok (.file id, (t.setContent id .empty).bind spot.absolute (.file id))

def append (t : FileTree) (node : Node) (bytes : ByteArray) : Except FileFault FileTree :=
  match node with
  | .file id => .ok (t.setContent id (t.content id ++ bytes))
  | .full => if bytes.isEmpty then .ok t else .error .noSpace
  | .sink => .ok t
  | .directory => .error .isDirectory

def write (t : FileTree) (path : String) (bytes : ByteArray) : Except FileFault FileTree := do
  let (node, t) ← t.openForWriting path
  match node with
  | .file id => .ok (t.setContent id bytes)
  | node => t.append node bytes

def remove (t : FileTree) (path : String) : Except FileFault FileTree := do
  let spot ← t.locate path
  match spot, ← t.lookup spot with
  | .passed _, _ | _, some .directory => .error .isDirectory
  | _, none => .error .notFound
  | .entry _ _ true, _ => .error .notDirectory
  | _, _ => .ok (t.unbind spot.absolute)

def removeAll (t : FileTree) (path : String) : Except FileFault FileTree := do
  let _ ← t.find path
  let spot ← t.locate path
  .ok { t with nodes := t.nodes.filter fun e => !spot.absolute.isPrefixOf e.1 }

/-- The tree without what is at a path, if anything is. -/
def discard (t : FileTree) (path : String) : FileTree := (t.removeAll path).toOption.getD t

def makeDirectory (t : FileTree) (path : String) : Except FileFault FileTree := do
  let spot ← t.locate path
  match spot, ← t.lookup spot with
  | .passed _, _ | _, some _ => .error .exists
  | _, none => .ok (t.bind spot.absolute .directory)

private def ensure (t : FileTree) (path : String) : Except FileFault FileTree :=
  match t.makeDirectory path with
  | .error fault => if t.isDirectory path then .ok t else .error fault
  | made => made

/-- Makes a directory and those on the way to it that are missing; one that is there already is
left as it is. -/
def makeDirectories (t : FileTree) (path : String) : Except FileFault FileTree :=
  go path.length t path
where
  /-- Makes the directories of a path that is no longer than the number. -/
  go : Nat → FileTree → String → Except FileFault FileTree
    | 0, t, _ => .ok t
    | n + 1, t, path =>
        match t.makeDirectory path, Path.parent? path with
        | .error .notFound, some parent => do ensure (← go n t parent) path
        | _, _ => t.ensure path

private def isDevice (name : List String) : Bool := name.head? == some "dev"

def move (t : FileTree) (old new : List String) : FileTree :=
  let rest := t.nodes.filter fun e => e.1 ≠ new
  { t with nodes := rest.map fun e =>
      if old.isPrefixOf e.1 then (new ++ e.1.drop old.length, e.2) else e }

/-- Gives the file or the directory at one path another name, in place of a file or an empty
directory that has it. Nothing is done if both paths lead to the same name. -/
def rename (t : FileTree) (source target : String) : Except FileFault FileTree := do
  let oldSpot ← t.locate source
  let newSpot ← t.locate target
  let old := oldSpot.absolute
  let new := newSpot.absolute
  if isDevice old ≠ isDevice new then .error .otherDevice
  match oldSpot, newSpot with
  | .entry _ _ slash, .entry _ _ slash' =>
      match ← t.lookup oldSpot, ← t.lookup newSpot with
      | none, _ => .error .notFound
      | some .directory, found =>
          if old = new then .ok t
          else if old.isPrefixOf new then .error .invalid
          else if new.isPrefixOf old then .error .notEmpty
          else
            match found with
            | none => .ok (t.move old new)
            | some .directory =>
                if t.nodes.any fun e => e.1 ≠ new ∧ new.isPrefixOf e.1 then .error .notEmpty
                else .ok (t.move old new)
            | some _ => .error .notDirectory
      | some _, found =>
          if slash ∨ slash' then .error .notDirectory
          else if old = new then .ok t
          else if new.isPrefixOf old then .error .notEmpty
          else if found = some .directory then .error .isDirectory
          else .ok (t.move old new)
  | _, _ => .error .busy

end FileTree

end LiveConfig
