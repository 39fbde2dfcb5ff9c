import RenderCheck.Backend.Native
import RenderCheck.Backend.ExternalTools
import RenderCheck.FilePair
import RenderCheck.Outcome
import RenderCheck.TextDiff

/-! # Comparing one file

    A reference file without counterpart is missing. An image is measured
    against its counterpart, and above the threshold it is a mismatch, with a
    diff image if there is a directory for them. Other files are compared as
    texts if that is asked for. -/

namespace RenderCheck

/-- A configuration with all that is needed to act on it. -/
structure Comparator (μ : Type) where
  config : Config
  /-- Measures image pairs and draws their differences. -/
  backend : Backend μ
  /-- The names of images. -/
  imagePattern : Glob.Pattern
  /-- Compares other files, if that is asked for. -/
  textDiffer : Option (TextDiffer μ)

namespace Comparator

variable {μ : Type}

/-- A comparator with a backend of one's own. The image pattern must be a
    pattern; nothing else is looked at. -/
def withBackend (config : Config) (toolbox : Tool.Toolbox) (backend : Backend μ) :
    Except CompareError (Comparator μ) := do
  let imagePattern ← config.readPattern
  return ⟨config, backend, imagePattern,
    if config.textDiff then some (.external toolbox config.programs.diff) else none⟩

/-- The backend that a configuration names. -/
def backendOf (config : Config) (toolbox : Tool.Toolbox) : Backend μ :=
  match config.backend with
  | .imageMagick => .externalTools toolbox config.programs
  | .native => .native

/-- A comparator with the backend that the configuration names. -/
def ofConfig (config : Config) (toolbox : Tool.Toolbox) : Except CompareError (Comparator μ) :=
  withBackend config toolbox (backendOf config toolbox)

/-- The name of the pair's reference selects it for a comparison of images. -/
def isImage (c : Comparator μ) (pair : FilePair) : Bool :=
  match pair.fileName? with
  | some name => c.imagePattern.accepts name.toList
  | none => false

/-- Draws the difference of a pair's images into the diff directory, which is
    created if it does not exist. -/
def writeDiffImage (c : Comparator μ) (pair : FilePair) (diffDir : Path) : Action μ Path := do
  if !(← Action.files).pathExists diffDir then
    let (made, files) := (← Action.files).makeDirs diffDir
    Action.setFiles files
    if let .error error := made then
      throw (.io (.failedTo "create diff directory" diffDir error))
  let output := diffDir.join ⟨pair.diffFileName⟩
  if (← Action.files).pathExists output then
    Action.emit ⟨.warn, .comparator, "Overwriting existing diff image",
      [.path "output" output]⟩
  c.backend.renderDiff pair.reference pair.generated output
  return output

/-- Measures the images of a pair. -/
def compareImages (c : Comparator μ) (pair : FilePair) : Action μ Outcome := do
  let metric ← c.backend.measure pair.reference pair.generated
  Action.emit ⟨.debug, .comparator, "Measured image pair",
    [.path "reference" pair.relative, .number "mse" metric.value]⟩
  if !metric.exceeds c.config.threshold then return .passed metric
  match c.config.diffDir with
  | none => return .mismatch pair.reference metric none
  | some diffDir =>
    let output ← c.writeDiffImage pair diffDir
    return .mismatch pair.reference metric (some output)

/-- Compares the texts of a pair. -/
def compareTexts (c : Comparator μ) (pair : FilePair) : Action μ Outcome := do
  match c.textDiffer with
  | none => return .skipped
  | some differ =>
    if pair.fileName?.any TextDiffer.isExcluded then return .skipped
    match ← differ pair.reference pair.generated with
    | none => return .skipped
    | some output => return .textDiffers output

/-- Checks one reference file against its counterpart. -/
def comparePair (c : Comparator μ) (pair : FilePair) : Action μ Outcome := do
  if !(← Action.files).pathExists pair.generated then
    Action.emit ⟨.debug, .comparator, "Counterpart missing",
      [.path "generated" pair.generated]⟩
    return .missing pair.generated
  else if c.isImage pair then c.compareImages pair
  else c.compareTexts pair

end Comparator

end RenderCheck
