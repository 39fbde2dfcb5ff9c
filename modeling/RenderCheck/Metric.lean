import RenderCheck.Binary64.Numeral
import RenderCheck.Error
import RenderCheck.Regex.Meaning
import RenderCheck.Regex.Program

/-! # Metrics

    How unlike two images are: a normalized mean squared error, zero for
    identical images. A comparison tool prints it as `absolute (normalized)`;
    the number in parentheses is the one that counts. -/

namespace RenderCheck

/-- The dissimilarity of two images. -/
structure Metric where
  /-- The normalized mean squared error. -/
  value : Binary64
  deriving DecidableEq, Inhabited

namespace Metric

/-- The metric of images that a tool calls identical. -/
def identical : Metric :=
  ⟨Binary64.zero⟩

/-- Strictly above the threshold. -/
def exceeds (m : Metric) (threshold : Binary64) : Bool :=
  threshold.lt m.value

/-- The text of a metric in a report line. -/
def text (m : Metric) : String :=
  m.value.text

/-! ## Reading a tool's output -/

/-- How a metric stands in the output of a tool: something, and a parenthesis
    with the number. The parenthesis need not be closed. -/
def patternText : String := "([^(]+)\\(([^)]+)"

/-- The pattern by which a metric is found. -/
def pattern? : Option Regex.Pattern :=
  (Regex.Pattern.read patternText.toList).toOption

/-- What the second group of the pattern matches in the output of a tool. -/
def captured? (output : List Char) : Option (List Char) := do
  (← pattern?).capture? 2 output

/-- The metric in the output of a tool: the number in the parenthesis, blanks
    around it aside. -/
def parse? (output : String) : Option Metric := do
  let inside ← captured? output.toList
  let value ← Binary64.read? (Text.trim inside)
  return ⟨value⟩

/-- The metric in the output of a tool. Output without one is an error that
    quotes all of it. -/
def read (output : String) : Except CompareError Metric :=
  match parse? output with
  | some metric => .ok metric
  | none => .error (.metricParse output)

end Metric

end RenderCheck
