import RenderCheck.Backend.Basic
import RenderCheck.Config
import RenderCheck.Tool.Program

/-! # Comparison by external programs

    A comparing program exits with 0 for identical images, with 1 for unlike
    ones and with anything else when it failed. Its picture of the differences
    is piped into a second program that puts the three images side by side. -/

namespace RenderCheck.Backend

variable {μ : Type}

/-- Runs a program to its end. A program that cannot be started is an error
    that names it. -/
def launch (toolbox : Tool.Toolbox) (launch : Tool.Launch) : Action μ Tool.Finished := do
  Action.ofFiles (.spawn launch.program) (toolbox.start · launch)
  let (finished, files) := toolbox.perform (← Action.files) launch
  Action.setFiles files
  return finished

/-- What a program that measured two images has to say. -/
def readMeasure (program : String) (finished : Tool.Finished) : Except CompareError Metric :=
  match finished.status.code? with
  | some 0 => .ok .identical
  | some 1 => Metric.read finished.combinedOutput
  | _ => .error (.ofTool program finished.status finished.combinedOutput)

/-- Whether two programs that drew a strip together have done so. The second
    one's failure is the one that counts. -/
def readRender (programs : Programs) (compared composed : Tool.Finished) :
    Except CompareError Unit :=
  if composed.status.success then
    match compared.status.code? with
    | some 0 => .ok ()
    | some 1 => .ok ()
    | _ => .error (.ofTool programs.compare compared.status "")
  else .error (.ofTool programs.montage composed.status composed.combinedOutput)

/-- Comparison by the programs with the given names. -/
def externalTools (toolbox : Tool.Toolbox) (programs : Programs) : Backend μ where
  name := "imagemagick"
  measure reference generated := do
    Action.emit ⟨.trace, .externalTools, "Running mse comparison",
      [.plain "program" programs.compare, .path "reference" reference,
       .path "generated" generated]⟩
    let finished ← launch toolbox
      ⟨programs.compare, ["-metric", "mse", reference.text, generated.text, "null:"], []⟩
    Action.ofExcept (readMeasure programs.compare finished)
  renderDiff reference generated output := do
    Action.emit ⟨.debug, .externalTools, "Composing diff image", [.path "output" output]⟩
    let comparing : Tool.Launch :=
      ⟨programs.compare, [reference.text, generated.text, "png:-"], []⟩
    let composing : Tool.Launch :=
      ⟨programs.montage, [reference.text, "-", generated.text, "-tile", "3x1",
        "-geometry", "+0+0", output.text], []⟩
    -- both programs are started before either has done anything
    Action.ofFiles (.spawn programs.compare) (toolbox.start · comparing)
    Action.ofFiles (.spawn programs.montage) (toolbox.start · composing)
    let (compared, files) := toolbox.perform (← Action.files) comparing
    let (composed, files) := toolbox.perform files { composing with input := compared.output }
    Action.setFiles files
    Action.ofExcept (readRender programs compared composed)

end RenderCheck.Backend
