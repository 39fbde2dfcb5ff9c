import RenderCheck.Error

/-! # Configuration

    What a run is told: the two trees, where diff images go, the threshold,
    which files are images, and the tools. A configuration is built from
    settings, the last of each kind counting, and checked at the end. -/

namespace RenderCheck

/-- What measures image pairs and draws their differences. -/
inductive BackendKind where
  /-- The external `compare` and `montage` programs. -/
  | imageMagick
  /-- The built-in comparison. -/
  | native
  deriving DecidableEq, Inhabited

/-- The names of the external programs. -/
structure Programs where
  /-- Compares pixels. -/
  compare : String := "compare"
  /-- Puts images side by side. -/
  montage : String := "montage"
  /-- Compares texts. -/
  diff : String := "diff"
  deriving DecidableEq, Inhabited

/-- The largest metric accepted by default. -/
def defaultThreshold : Binary64 :=
  .ofMagnitude false (Binary64.nearestDecimal 1 (-3))

/-- The names of images by default. -/
def defaultImagePattern : String := "*.png"

/-- What a run is told. -/
structure Config where
  /-- The root of the reference tree. -/
  referenceDir : Path := ⟨"."⟩
  /-- The root of the generated tree. -/
  renderDir : Path := ⟨"."⟩
  /-- Where diff images go; without it none are drawn. -/
  diffDir : Option Path := none
  /-- Metrics strictly above this are reported. -/
  threshold : Binary64 := defaultThreshold
  /-- The pattern of the names of images. -/
  imagePattern : String := defaultImagePattern
  /-- What measures image pairs. -/
  backend : BackendKind := .imageMagick
  /-- The names of the external programs. -/
  programs : Programs := {}
  /-- Other files are compared as texts. -/
  textDiff : Bool := false
  deriving DecidableEq, Inhabited

/-- One thing told about a run. -/
inductive Setting where
  | referenceDir (dir : Path)
  | renderDir (dir : Path)
  | diffDir (dir : Option Path)
  | threshold (value : Binary64)
  | imagePattern (pattern : String)
  | backend (kind : BackendKind)
  | compareProgram (name : String)
  | montageProgram (name : String)
  | diffProgram (name : String)
  | textDiff (enabled : Bool)
  deriving DecidableEq

namespace Config

/-- The configuration with one thing set. -/
def set (c : Config) : Setting → Config
  | .referenceDir dir => { c with referenceDir := dir }
  | .renderDir dir => { c with renderDir := dir }
  | .diffDir dir => { c with diffDir := dir }
  | .threshold value => { c with threshold := value }
  | .imagePattern pattern => { c with imagePattern := pattern }
  | .backend kind => { c with backend := kind }
  | .compareProgram name => { c with programs := { c.programs with compare := name } }
  | .montageProgram name => { c with programs := { c.programs with montage := name } }
  | .diffProgram name => { c with programs := { c.programs with diff := name } }
  | .textDiff enabled => { c with textDiff := enabled }

/-- The configuration that settings describe, whether it can be used or not. -/
def ofSettings (settings : List Setting) : Config :=
  settings.foldl set {}

/-- The pattern of the names of images. -/
def readPattern (c : Config) : Except CompareError Glob.Pattern :=
  match Glob.Pattern.parse c.imagePattern with
  | .ok pattern => .ok pattern
  | .error error => .error (.invalidConfig (.imagePattern c.imagePattern error))

/-- Lets a usable configuration through. The threshold is looked at first, then
    the pattern, then the names of programs. -/
def check (c : Config) : Except CompareError Config := do
  if !c.threshold.isFinite || c.threshold.lt .zero then
    throw (.invalidConfig (.threshold c.threshold))
  let _ ← c.readPattern
  if c.programs.compare = "" ∨ c.programs.montage = "" ∨ c.programs.diff = "" then
    throw (.invalidConfig .emptyProgram)
  return c

/-- Builds a usable configuration from settings. -/
def build (settings : List Setting) : Except CompareError Config :=
  (ofSettings settings).check

end Config

end RenderCheck
