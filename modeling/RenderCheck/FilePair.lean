import RenderCheck.Error

/-! # File pairs

    A reference file, the generated file it is compared with, and the path of
    both under their roots. The diff image of a pair lands directly in the
    diff directory, under one name made of the components of that path. -/

namespace RenderCheck

/-- A reference file and its expected counterpart. -/
structure FilePair where
  /-- The file under the reference root. -/
  reference : Path
  /-- Its counterpart under the render root. -/
  generated : Path
  /-- The path of the reference under its root. -/
  relative : Path
  deriving DecidableEq, Inhabited

namespace FilePair

/-- The pair of a reference file under the reference root. -/
def ofReference (referenceRoot renderRoot reference : Path) : Except CompareError FilePair :=
  match reference.stripPrefix? referenceRoot with
  | some relative => .ok ⟨reference, renderRoot.join relative, relative⟩
  | none => .error (.invalidConfig (.outsideRoot reference referenceRoot))

/-- The name of the reference file. -/
def fileName? (t : FilePair) : Option String :=
  t.reference.fileName?

/-- The components of the directory a relative path lies in; there are none
    for a path that has no last component to take off. -/
def directoryComponents (relative : Path) : List Component :=
  match relative.components.getLast? with
  | none => []
  | some .root => []
  | some _ => relative.components.dropLast

/-- The name of the pair's diff image: the components of the directory and the
    file name, joined by dashes. -/
def diffFileName (t : FilePair) : String :=
  let name := t.fileName?.getD ""
  match (directoryComponents t.relative).map Component.text with
  | [] => name
  | directories => "-".intercalate directories ++ "-" ++ name

end FilePair

end RenderCheck
