import RenderCheck.FileTree.Operations
import RenderCheck.FilePair

/-! # Walking the reference tree

    A walk goes through a directory tree and meets one pair for every entry
    that is no directory. In each directory the entries that are no
    directories come first, in the order of their names, then the directories
    in the order of theirs. Links are not followed, but what a link leads to
    decides whether it is met: one that leads to a directory is not.

    A directory is listed when the walk enters it, so a visitor that changes
    files may change what is met later. -/

namespace RenderCheck

/-- What a walk meets: a pair, or a directory that cannot be read. -/
abbrev WalkItem := Except CompareError FilePair

namespace Walk

/-- Puts a name in its place among names in order. -/
def insertName (name : String) : List String → List String
  | [] => [name]
  | other :: names =>
    if name ≤ other then name :: other :: names else other :: insertName name names

/-- The names of those entries of a directory that pass a test, in order. -/
def sortedNames (entries : List (String × Node)) (keep : String × Node → Bool) : List String :=
  ((entries.filter keep).map Prod.fst).foldr insertName []

/-- The names of the entries of a directory in the order of a walk: those that
    are no directories, and the directories. -/
def inOrder (entries : List (String × Node)) : List String × List String :=
  (sortedNames entries (!·.2.isDirectory), sortedNames entries (·.2.isDirectory))

/-- No path has more directories than this: each takes at least two bytes. -/
def depthLimit : Nat := FileTree.pathLimit

/-! ## Walking files that change -/

section Visiting

variable {m : Type → Type} [Monad m]

/-- Walks what lies in a directory and gives each item to the visitor. `look`
    shows the files as they are at that moment. -/
def visitDir (look : m FileTree) (visit : WalkItem → m Unit) (referenceRoot renderRoot : Path) :
    (depth : Nat) → Path → m Unit
  | 0, dir => visit (.error (.walk dir .nameTooLong))
  | depth + 1, dir => do
    let files ← look
    match files.listDir dir with
    | .error error => visit (.error (.walk dir error))
    | .ok entries => do
      forM (inOrder entries).1 fun name => do
        let path := dir.join ⟨name⟩
        let files ← look
        if files.isDir path then pure ()
        else visit (FilePair.ofReference referenceRoot renderRoot path)
      forM (inOrder entries).2 fun name =>
        visitDir look visit referenceRoot renderRoot depth (dir.join ⟨name⟩)

/-- Walks the tree below the reference root. A root that is a link is followed;
    a root that is a file is itself the only pair. -/
def visit (look : m FileTree) (visit : WalkItem → m Unit) (referenceRoot renderRoot : Path) :
    m Unit := do
  let files ← look
  match files.inspect false referenceRoot with
  | .error error => visit (.error (.walk referenceRoot error))
  | .ok .directory => visitDir look visit referenceRoot renderRoot depthLimit referenceRoot
  | .ok (.file _ _) => visit (FilePair.ofReference referenceRoot renderRoot referenceRoot)
  | .ok (.link _) =>
    match files.inspect true referenceRoot with
    | .error error => visit (.error (.walk referenceRoot error))
    | .ok .directory => visitDir look visit referenceRoot renderRoot depthLimit referenceRoot
    | .ok _ => visit (FilePair.ofReference referenceRoot renderRoot referenceRoot)

end Visiting

/-! ## Walking files at rest -/

/-- What a walk meets in a directory if nothing changes. -/
def itemsIn (files : FileTree) (referenceRoot renderRoot : Path) :
    (depth : Nat) → Path → List WalkItem
  | 0, dir => [.error (.walk dir .nameTooLong)]
  | depth + 1, dir =>
    match files.listDir dir with
    | .error error => [.error (.walk dir error)]
    | .ok entries =>
      (((inOrder entries).1.map fun name => dir.join ⟨name⟩).filter (!files.isDir ·)).map
          (FilePair.ofReference referenceRoot renderRoot)
        ++ (inOrder entries).2.flatMap fun name =>
          itemsIn files referenceRoot renderRoot depth (dir.join ⟨name⟩)

/-- What a walk meets if nothing changes. -/
def items (files : FileTree) (referenceRoot renderRoot : Path) : List WalkItem :=
  let alone := [FilePair.ofReference referenceRoot renderRoot referenceRoot]
  let below := itemsIn files referenceRoot renderRoot depthLimit referenceRoot
  match files.inspect false referenceRoot with
  | .error error => [.error (.walk referenceRoot error)]
  | .ok .directory => below
  | .ok (.file _ _) => alone
  | .ok (.link _) =>
    match files.inspect true referenceRoot with
    | .error error => [.error (.walk referenceRoot error)]
    | .ok .directory => below
    | .ok _ => alone

/-! ## Laws -/

section Laws

variable {m : Type → Type} [Monad m] [LawfulMonad m]

/-- Visiting the files of a directory is visiting those that are met. -/
theorem forM_files (visit : WalkItem → m Unit) (files : FileTree)
    (referenceRoot renderRoot dir : Path) (names : List String) :
    (forM names fun name =>
        if files.isDir (dir.join ⟨name⟩) then pure ()
        else visit (FilePair.ofReference referenceRoot renderRoot (dir.join ⟨name⟩)))
      = forM (((names.map fun name => dir.join ⟨name⟩).filter (!files.isDir ·)).map
          (FilePair.ofReference referenceRoot renderRoot)) visit := by
  induction names with
  | nil => rfl
  | cons name names ih =>
    by_cases h : files.isDir (dir.join ⟨name⟩) = true <;> simp_all

/-- Visiting lists of items one after the other is visiting all their items. -/
theorem forM_flatMap (visit : WalkItem → m Unit) (f : String → List WalkItem)
    (names : List String) :
    forM (names.flatMap f) visit = forM names fun name => forM (f name) visit := by
  induction names with
  | nil => rfl
  | cons name names ih => simp [List.flatMap_cons, ih]

/-- A walk over a directory at rest visits the items of the directory. -/
theorem visitDir_pure (files : FileTree) (visit : WalkItem → m Unit)
    (referenceRoot renderRoot : Path) (depth : Nat) (dir : Path) :
    visitDir (pure files) visit referenceRoot renderRoot depth dir
      = forM (itemsIn files referenceRoot renderRoot depth dir) visit := by
  induction depth generalizing dir with
  | zero => simp [visitDir, itemsIn]
  | succ depth ih =>
    simp only [visitDir, itemsIn, pure_bind]
    cases files.listDir dir with
    | error error => simp
    | ok entries => simp only [List.forM_append, forM_files, forM_flatMap, ih]

/-- A walk over files at rest visits the items of the tree. -/
theorem visit_pure (files : FileTree) (visit : WalkItem → m Unit)
    (referenceRoot renderRoot : Path) :
    Walk.visit (pure files) visit referenceRoot renderRoot
      = forM (items files referenceRoot renderRoot) visit := by
  simp only [Walk.visit, items, pure_bind, visitDir_pure]
  cases files.inspect false referenceRoot with
  | error error => simp
  | ok node =>
    cases node with
    | file content executable => simp
    | directory => rfl
    | link target =>
      cases files.inspect true referenceRoot with
      | error error => simp
      | ok node => cases node <;> simp

end Laws

end Walk

end RenderCheck
