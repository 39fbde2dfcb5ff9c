import RenderCheck.FileTree.Content
import RenderCheck.IoError

/-! # File trees

    The files a run sees and leaves: a finite map from locations to files,
    directories and links, and a working directory that relative paths start
    at. The order of the entries is the order in which a directory lists them;
    nothing below depends on it but the order of that list. -/

namespace RenderCheck

/-- The names that lead from the root to an entry. -/
abbrev Location := List String

/-- What an entry is. -/
inductive Node where
  /-- A file: its bytes, and whether it can be run. -/
  | file (content : Content) (executable : Bool)
  /-- A directory. -/
  | directory
  /-- A symbolic link. -/
  | link (target : Path)
  deriving DecidableEq

/-- The node is a directory. -/
def Node.isDirectory : Node → Bool
  | directory => true
  | _ => false

/-- The files of a system. -/
structure FileTree where
  /-- Where relative paths start. -/
  workingDir : Location
  /-- Every entry below the root with its location. -/
  entries : List (Location × Node)
  deriving DecidableEq

namespace FileTree

/-! ## Entries by location -/

/-- Whether a location is one name below a directory, and that name. -/
def nameIn? (dir location : Location) : Option String :=
  if location.dropLast = dir then location.getLast? else none

/-- The entry at a location. The root is a directory. -/
def node? (t : FileTree) (location : Location) : Option Node :=
  if location = [] then some .directory else t.entries.lookup location

/-- Entries with one replaced, or added at the end. -/
def putEntry (location : Location) (node : Node) :
    List (Location × Node) → List (Location × Node)
  | [] => [(location, node)]
  | entry :: entries =>
    if entry.1 = location then (location, node) :: entries
    else entry :: putEntry location node entries

/-- The tree with an entry at a location, in place of what was there. -/
def put (t : FileTree) (location : Location) (node : Node) : FileTree :=
  { t with entries := putEntry location node t.entries }

/-- The tree without an entry and all that lies below it. -/
def delete (t : FileTree) (location : Location) : FileTree :=
  { t with entries := t.entries.filter fun entry => !location.isPrefixOf entry.1 }

/-- The names in a directory and what they are, in the order of the entries. -/
def children (t : FileTree) (dir : Location) : List (String × Node) :=
  t.entries.filterMap fun entry => (nameIn? dir entry.1).map (·, entry.2)

/-- A tree with no entries but the working directory and those above it. -/
def empty (workingDir : Location) : FileTree :=
  ⟨workingDir, (List.range workingDir.length).map fun n =>
    (workingDir.take (n + 1), .directory)⟩

/-! ## Following paths -/

/-- Where a path leads: a location, and the entry there if one exists. -/
structure Place where
  location : Location
  node? : Option Node
  deriving DecidableEq

/-- The largest number of links that one path may run through. -/
def linkLimit : Nat := 40

/-- The largest number of bytes in a name. -/
def nameLimit : Nat := 255

/-- The number of bytes that a path must stay below. -/
def pathLimit : Nat := 4096

/-- The steps a path takes. A separator at the end asks for a directory, as a
    `.` does. -/
def stepsOf (p : Path) : List Component :=
  (if p.isAbsolute then [.root] else [])
    ++ p.parts.filterMap (fun part =>
      if part = [] then none
      else if part = ['.'] then some .current
      else if part = ['.', '.'] then some .parent
      else some (.name (String.ofList part)))
    ++ (if p.text.toList.getLast? = some '/' then [.current] else [])

/-- Takes steps from a directory. Only the last one may lead to something that
    does not exist or is no directory, and only there is a link left alone
    unless `followLast` is set. `onLink` goes on after a link, from the
    directory it lies in. -/
def descend (t : FileTree) (followLast : Bool)
    (onLink : Location → List Component → Except IoError Place) :
    Location → List Component → Except IoError Place
  | here, [] => .ok ⟨here, some .directory⟩
  | _, .root :: rest => descend t followLast onLink [] rest
  | here, .current :: rest => descend t followLast onLink here rest
  | here, .parent :: rest => descend t followLast onLink here.dropLast rest
  | here, .name text :: rest =>
    if nameLimit < text.utf8ByteSize then .error .nameTooLong
    else
      let there := here ++ [text]
      match t.node? there with
      | none => if rest = [] then .ok ⟨there, none⟩ else .error .notFound
      | some .directory => descend t followLast onLink there rest
      | some (.link target) =>
        if rest = [] && !followLast then .ok ⟨there, some (.link target)⟩
        else onLink here (stepsOf target ++ rest)
      | some (.file content executable) =>
        if rest = [] then .ok ⟨there, some (.file content executable)⟩
        else .error .notADirectory

/-- Takes steps through at most the given number of links. -/
def descendThrough (t : FileTree) (followLast : Bool) :
    (links : Nat) → Location → List Component → Except IoError Place
  | 0 => t.descend followLast fun _ _ => .error .tooManyLinks
  | links + 1 => t.descend followLast (t.descendThrough followLast links)

/-- Takes the given steps from the working directory for a path. -/
def locateSteps (t : FileTree) (followLast : Bool) (p : Path) (steps : List Component) :
    Except IoError Place :=
  if p.text.toList.contains '\x00' then .error .nulInPath
  else if p.text = "" then .error .notFound
  else if pathLimit ≤ p.text.utf8ByteSize then .error .nameTooLong
  else t.descendThrough followLast linkLimit t.workingDir steps

/-- Where a path leads; a link at its end is followed if `followLast` is set. -/
def locate (t : FileTree) (followLast : Bool) (p : Path) : Except IoError Place :=
  t.locateSteps followLast p (stepsOf p)

/-- The entry a path leads to. -/
def inspect (t : FileTree) (followLast : Bool) (p : Path) : Except IoError Node := do
  let place ← t.locate followLast p
  match place.node? with
  | some node => return node
  | none => throw .notFound

/-- The path leads to something. -/
def pathExists (t : FileTree) (p : Path) : Bool :=
  (t.inspect true p).isOk

/-- The path leads to a directory. -/
def isDir (t : FileTree) (p : Path) : Bool :=
  match t.inspect true p with
  | .ok node => node.isDirectory
  | .error _ => false

/-- The path leads to a file. -/
def isFile (t : FileTree) (p : Path) : Bool :=
  match t.inspect true p with
  | .ok (.file _ _) => true
  | _ => false

end FileTree

end RenderCheck
