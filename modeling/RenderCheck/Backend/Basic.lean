import RenderCheck.Machine
import RenderCheck.Metric

/-! # Backends

    A backend measures how unlike two image files are, and draws their
    difference into a third. Everything else about a comparison is the same
    for all backends. -/

namespace RenderCheck

/-- What measures image pairs and draws their differences. -/
structure Backend (μ : Type) where
  /-- The name of the backend in log lines. -/
  name : String
  /-- The metric of a reference and a generated image. -/
  measure : (reference generated : Path) → Action μ Metric
  /-- Writes a strip of reference, difference and generated image. -/
  renderDiff : (reference generated output : Path) → Action μ Unit

end RenderCheck
