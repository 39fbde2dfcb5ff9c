import RenderCheck.Metric
import RenderCheck.Path.Basic

/-! # Outcomes and summaries

    What checking one reference file found, the line reported for it, and the
    counters of a run. -/

namespace RenderCheck

/-- What checking one reference file found. -/
inductive Outcome where
  /-- There is no counterpart. -/
  | missing (generated : Path)
  /-- An image pair within the threshold. -/
  | passed (metric : Metric)
  /-- An image pair above the threshold, and the diff image if one was
      written. -/
  | mismatch (reference : Path) (metric : Metric) (diffImage : Option Path)
  /-- A pair of other files whose texts differ, and how. -/
  | textDiffers (output : String)
  /-- The counterpart exists and nothing more was to be checked. -/
  | skipped
  deriving DecidableEq

/-- The line reported for an outcome, if any. -/
def Outcome.reportLine? : Outcome → Option String
  | missing generated => some ("File " ++ generated.text ++ " does not exist")
  | mismatch reference metric _ => some (reference.text ++ ": " ++ metric.text)
  | textDiffers output => some (String.ofList (Text.trimEnd output.toList))
  | passed _ => none
  | skipped => none

/-- The counters of a run. -/
structure Summary where
  /-- Reference files looked at. -/
  filesChecked : Nat := 0
  /-- Image pairs measured. -/
  imagesCompared : Nat := 0
  /-- Reference files without counterpart. -/
  missing : Nat := 0
  /-- Image pairs above the threshold. -/
  mismatched : Nat := 0
  /-- Pairs of other files whose texts differ. -/
  textDifferences : Nat := 0
  /-- Diff images written. -/
  diffsWritten : Nat := 0
  deriving DecidableEq, Inhabited

namespace Summary

/-- The counters after one more outcome. -/
def record (s : Summary) (outcome : Outcome) : Summary :=
  let s := { s with filesChecked := s.filesChecked + 1 }
  match outcome with
  | .missing _ => { s with missing := s.missing + 1 }
  | .passed _ => { s with imagesCompared := s.imagesCompared + 1 }
  | .mismatch _ _ diffImage =>
    { s with
      imagesCompared := s.imagesCompared + 1
      mismatched := s.mismatched + 1
      diffsWritten := s.diffsWritten + if diffImage.isSome then 1 else 0 }
  | .textDiffers _ => { s with textDifferences := s.textDifferences + 1 }
  | .skipped => s

/-- Something was reported. -/
def hasFailures (s : Summary) : Bool :=
  0 < s.missing + s.mismatched + s.textDifferences

end Summary

end RenderCheck
