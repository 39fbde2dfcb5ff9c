import RenderCheck.FileTree.Basic

/-! # File operations

    Reading, listing, writing, creating and removing entries by path. An
    operation that fails says why; only creating a chain of directories can
    fail after it has changed the tree. -/

namespace RenderCheck.FileTree

/-! ## Reading -/

/-- What a file holds. -/
def readContent (t : FileTree) (p : Path) : Except IoError Content := do
  match ← t.inspect true p with
  | .file content _ => return content
  | .directory => throw .isADirectory
  | .link _ => throw .tooManyLinks

/-- The bytes of a file. -/
def readFile (t : FileTree) (p : Path) : Except IoError (List UInt8) :=
  (t.readContent p).map Content.bytes

/-- The entries of a directory, by name. -/
def listDir (t : FileTree) (p : Path) : Except IoError (List (String × Node)) := do
  let place ← t.locate true p
  match place.node? with
  | some .directory => return t.children place.location
  | some _ => throw .notADirectory
  | none => throw .notFound

/-! ## Writing -/

/-- The steps of a path without the one that a separator at the end adds. -/
def stepsOfTarget (p : Path) : List Component :=
  if p.text.toList.getLast? = some '/' then (stepsOf p).dropLast else stepsOf p

/-- Writes a file, a new one or over an old one. A file that exists stays as
    executable as it was; a path that ends in a separator names no file. -/
def writeFile (t : FileTree) (p : Path) (content : Content) : Except IoError FileTree := do
  if p.text.toList.getLast? = some '/' then
    let _ ← t.locateSteps false p (stepsOfTarget p)
    throw .isADirectory
  let place ← t.locate true p
  match place.node? with
  | none => return t.put place.location (.file content false)
  | some (.file _ executable) => return t.put place.location (.file content executable)
  | some .directory => throw .isADirectory
  | some (.link _) => throw .tooManyLinks

/-- Adds bytes to the end of a file, a new one or an old one. -/
def appendFile (t : FileTree) (p : Path) (content : List UInt8) : Except IoError FileTree :=
  match t.readFile p with
  | .ok before => t.writeFile p (before ++ content)
  | .error _ => t.writeFile p content

/-- Creates one directory where nothing is yet. -/
def makeDir (t : FileTree) (p : Path) : Except IoError FileTree := do
  let place ← t.locateSteps false p (stepsOfTarget p)
  match place.node? with
  | none => return t.put place.location .directory
  | some _ => throw .alreadyExists

/-- Creates a directory and those above it as far as they are missing, those
    above first. `depth` bounds how far up it goes. -/
def makeDirsWithin : (depth : Nat) → Path → FileTree → Except IoError Unit × FileTree
  | 0, _, t => (.error .notFound, t)
  | depth + 1, p, t =>
    if p.text = "" then (.ok (), t)
    else
      match t.makeDir p with
      | .ok made => (.ok (), made)
      | .error error =>
        if error ≠ .notFound then
          if t.isDir p then (.ok (), t) else (.error error, t)
        else
          match p.parent? with
          | none => (.error (.custom "failed to create whole tree"), t)
          | some above =>
            match makeDirsWithin depth above t with
            | (.error error, t) => (.error error, t)
            | (.ok (), t) =>
              match t.makeDir p with
              | .ok made => (.ok (), made)
              | .error error => if t.isDir p then (.ok (), t) else (.error error, t)

/-- Creates a directory and those above it as far as they are missing. -/
def makeDirs (t : FileTree) (p : Path) : Except IoError Unit × FileTree :=
  makeDirsWithin (p.components.length + 1) p t

/-! ## Placing and removing -/

/-- Removes what a path names, a directory with all that lies in it; a link is
    removed itself. -/
def remove (t : FileTree) (p : Path) : Except IoError FileTree := do
  let place ← t.locate false p
  match place.node? with
  | some _ => return t.delete place.location
  | none => throw .notFound

/-- Puts an entry at a path and creates the directories above it. Through a
    link at the path a file is written where the link leads. -/
def place (t : FileTree) (p : Path) (node : Node) : Except IoError FileTree := do
  let (made, t) := t.makeDirs ((p.parent?).getD ⟨""⟩)
  made
  match node with
  | .directory =>
    let (made, t) := t.makeDirs p
    made
    return t
  | .file content executable =>
    let written ← t.writeFile p content
    let place ← written.locate true p
    return written.put place.location (.file content executable)
  | .link target =>
    let place ← t.locate false p
    match place.node? with
    | none => return t.put place.location (.link target)
    | some _ => throw .alreadyExists

/-! ## Listing all -/

/-- The entries from a path down: those of a directory right after it, in the
    order of their names. `depth` bounds how far down it goes. -/
def inventoryWithin (t : FileTree) : (depth : Nat) → Path → List (Path × Option Node)
  | 0, _ => []
  | depth + 1, p =>
    match t.inspect false p with
    | .error _ => [(p, none)]
    | .ok .directory =>
      let names := ((t.listDir p).toOption.getD []).map Prod.fst
      (p, some .directory) ::
        (names.mergeSort (· ≤ ·)).flatMap fun name => t.inventoryWithin depth (p.join ⟨name⟩)
    | .ok node => [(p, some node)]

/-- Everything from a path down. -/
def inventory (t : FileTree) (p : Path) : List (Path × Option Node) :=
  t.inventoryWithin (t.entries.length + 1) p

end RenderCheck.FileTree
