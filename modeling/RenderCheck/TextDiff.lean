import RenderCheck.Backend.ExternalTools

/-! # Text differences

    Files that are no images can be compared by an external program that
    ignores white space. It exits with 0 for equal texts, with 1 for different
    ones, whose differences it prints, and with anything else when it failed. -/

namespace RenderCheck

/-- What tells two text files apart: nothing, or how they differ. -/
abbrev TextDiffer (μ : Type) := (reference generated : Path) → Action μ (Option String)

namespace TextDiffer

variable {μ : Type}

/-- The names of files that are never compared as texts. -/
def excludedNames : List String := ["manifest.json"]

/-- A file of this name is never compared as text. -/
def isExcluded (name : String) : Bool :=
  excludedNames.contains name

/-- What a program that compared two texts has to say. -/
def readDiff (program : String) (finished : Tool.Finished) : Except CompareError (Option String) :=
  match finished.status.code? with
  | some 0 => .ok none
  | some 1 => .ok (some finished.combinedOutput)
  | _ => .error (.ofTool program finished.status finished.combinedOutput)

/-- Comparison of texts by a program. -/
def external (toolbox : Tool.Toolbox) (program : String) : TextDiffer μ :=
  fun reference generated => do
    Action.emit ⟨.trace, .textDiff, "Running text diff",
      [.plain "program" program, .path "reference" reference]⟩
    let finished ← Backend.launch toolbox
      ⟨program, ["-w", reference.text, generated.text], []⟩
    Action.ofExcept (readDiff program finished)

end TextDiffer

end RenderCheck
