import RenderCheck.Backend.Basic
import RenderCheck.Image.Difference
import RenderCheck.Image.File
import RenderCheck.Image.Strip

/-! # The built-in comparison

    Reads both images, which must have the same size, measures them pixel by
    pixel, and writes strips as PNG files whatever they are called. -/

namespace RenderCheck.Backend

variable {μ : Type}

/-- The images of a pair, the reference read first. -/
def loadPair (reference generated : Path) (files : FileTree) :
    Except CompareError (Image × Image) := do
  let load (p : Path) : Except CompareError Image := (files.readImage p).mapError .image
  let referenceImage ← load reference
  let generatedImage ← load generated
  if referenceImage.size ≠ generatedImage.size then
    throw (.sizeMismatch generated referenceImage.size generatedImage.size)
  return (referenceImage, generatedImage)

/-- The strip of a pair: reference, difference, generated. -/
def stripOf (reference generated : Image) : Image :=
  .strip [reference, differenceImage reference generated, generated]

/-- The built-in comparison. -/
def native : Backend μ where
  name := "native"
  measure reference generated := do
    let (referenceImage, generatedImage) ←
      Action.ofExcept (loadPair reference generated (← Action.files))
    let metric := Metric.ofImages referenceImage generatedImage
    Action.emit ⟨.trace, .native, "Computed native mse",
      [.path "reference" reference, .number "mse" metric.value]⟩
    return metric
  renderDiff reference generated output := do
    let (referenceImage, generatedImage) ←
      Action.ofExcept (loadPair reference generated (← Action.files))
    let strip := stripOf referenceImage generatedImage
    Action.emit ⟨.debug, .native, "Writing diff strip",
      [.path "output" output, .count "width" strip.width, .count "height" strip.height]⟩
    Action.changeFiles (fun error => .image (.io error)) (·.writeFile output (Png.contentOf strip))

end RenderCheck.Backend
