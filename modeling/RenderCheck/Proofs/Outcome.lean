import RenderCheck.Outcome
import RenderCheck.Proofs.Metric.RoundTrip

/-! # Report lines are unambiguous

    Paths stand unquoted in report lines, and may hold anything that the words
    around them are made of. A line still says what it is about: whatever the
    path, the line of a missing file ends in a letter that no number has, and
    the number that ends the line of a mismatch has no blank, so that it begins
    behind the last one.

    * **Numbers** as texts are told apart (`Binary64.render_inj`).
    * **Kinds** of lines are told apart by their ends
      (`Outcome.mismatchLine_ne_missingLine`).
    * **Lines**: `Outcome.line_eq_iff_tellsSame`. -/

namespace RenderCheck

/-! ## Numbers -/

namespace Binary64

/-- The text of a number is that of no other one. -/
theorem render_inj {x y : Binary64} (hx : x.isNaN = false) (hy : y.isNaN = false)
    (h : x.render = y.render) : x = y := by
  have hread := read?_render hx
  rw [h, read?_render hy] at hread
  exact (Option.some.inj hread).symm

end Binary64

/-! ## Texts in a line -/

/-- What stands behind the last separator is found by looking for it. -/
theorem Text.append_separator_inj {separator : Char} {before behind before' behind' : List Char}
    (hbehind : separator ∉ behind) (hbehind' : separator ∉ behind')
    (h : before ++ separator :: behind = before' ++ separator :: behind') :
    before = before' ∧ behind = behind' := by
  -- if one of the separators were further left, what is behind it would hold the other one
  rcases List.append_eq_append_iff.1 h with ⟨rest, rfl, hrest⟩ | ⟨rest, rfl, hrest⟩
  · cases rest with
    | nil =>
      rw [List.nil_append, List.cons.injEq] at hrest
      exact ⟨(List.append_nil _).symm, hrest.2⟩
    | cons c rest =>
      rw [List.cons_append, List.cons.injEq] at hrest
      exact absurd (by rw [hrest.2]; simp) hbehind
  · cases rest with
    | nil =>
      rw [List.nil_append, List.cons.injEq] at hrest
      exact ⟨List.append_nil _, hrest.2.symm⟩
    | cons c rest =>
      rw [List.cons_append, List.cons.injEq] at hrest
      exact absurd (by rw [hrest.2]; simp) hbehind'

namespace Outcome

/-- The outcomes whose lines name a file, with a metric that is a number. -/
inductive NamesFile : Outcome → Prop where
  | missing (generated : Path) : NamesFile (.missing generated)
  | mismatch (reference : Path) {metric : Metric} (diffImage : Option Path) :
    metric.value.isNaN = false → NamesFile (.mismatch reference metric diffImage)

/-- Outcomes of one kind, about the same path and with the same metric. -/
inductive TellsSame : Outcome → Outcome → Prop where
  | missing (generated : Path) : TellsSame (.missing generated) (.missing generated)
  | mismatch (reference : Path) (metric : Metric) (diffImage diffImage' : Option Path) :
    TellsSame (.mismatch reference metric diffImage) (.mismatch reference metric diffImage')

/-- The characters of the line of a missing file. -/
def missingLine (generated : Path) : List Char :=
  "File ".toList ++ generated.text.toList ++ " does not exist".toList

/-- The characters of the line of a mismatch. -/
def mismatchLine (reference : Path) (metric : Metric) : List Char :=
  reference.text.toList ++ [':'] ++ ' ' :: metric.value.render

theorem reportLine?_missing (generated : Path) :
    (missing generated).reportLine? = some (String.ofList (missingLine generated)) := by
  unfold missingLine
  rw [reportLine?, String.ofList_append, String.ofList_append]
  simp only [String.ofList_toList]

theorem reportLine?_mismatch (reference : Path) (metric : Metric) (diffImage : Option Path) :
    (mismatch reference metric diffImage).reportLine?
      = some (String.ofList (mismatchLine reference metric)) := by
  have hseparator : ": " = String.ofList [':', ' '] := by decide
  rw [reportLine?, mismatchLine, Metric.text, Binary64.text, hseparator, List.append_assoc,
    String.ofList_append, String.ofList_toList, String.append_assoc, ← String.ofList_append]
  rfl

/-- Lines of missing files say which. -/
theorem missingLine_inj {generated generated' : Path}
    (h : missingLine generated = missingLine generated') : generated = generated' := by
  unfold missingLine at h
  rw [List.append_left_inj, List.append_right_inj, String.toList_inj] at h
  exact congrArg Path.mk h

/-- Lines of mismatches say of what, and how bad it is. -/
theorem mismatchLine_inj {reference reference' : Path} {metric metric' : Metric}
    (hmetric : metric.value.isNaN = false) (hmetric' : metric'.value.isNaN = false)
    (h : mismatchLine reference metric = mismatchLine reference' metric') :
    reference = reference' ∧ metric = metric' := by
  have hblank {x : Binary64} (hx : x.isNaN = false) : ' ' ∉ x.render := by
    intro hmem
    have hnot := (Binary64.not_blank_of_mem_render hx hmem).1
    exact absurd hnot (by decide)
  obtain ⟨hpath, hnumber⟩ := Text.append_separator_inj (hblank hmetric) (hblank hmetric') h
  rw [List.append_left_inj, String.toList_inj] at hpath
  exact ⟨congrArg Path.mk hpath, congrArg Metric.mk (Binary64.render_inj hmetric hmetric' hnumber)⟩

/-- A number does not end as a line of a missing file does. -/
theorem mismatchLine_ne_missingLine (reference generated : Path) {metric : Metric}
    (hmetric : metric.value.isNaN = false) :
    mismatchLine reference metric ≠ missingLine generated := by
  obtain ⟨hsome, hcharacters⟩ := Binary64.characters_render hmetric
  intro h
  have hlast := congrArg List.getLast? h
  unfold mismatchLine missingLine at hlast
  rw [List.getLast?_append_of_ne_nil _ (List.cons_ne_nil _ _),
    List.getLast?_append_of_ne_nil _ (by decide), List.getLast?_cons_of_ne_nil hsome] at hlast
  have hmem : 't' ∈ metric.value.render := List.mem_of_getLast? hlast
  rcases hcharacters 't' hmem with hdigit | hother
  · exact absurd hdigit (by decide)
  · exact absurd hother (by decide)

/-- Outcomes that name a file have the same line if and only if they are of one
    kind, name the same path and, if they are mismatches, have the same metric bit
    by bit. -/
theorem line_eq_iff_tellsSame {first second : Outcome} (hfirst : first.NamesFile)
    (hsecond : second.NamesFile) :
    first.reportLine? = second.reportLine? ↔ first.TellsSame second := by
  constructor
  · intro hline
    cases hfirst with
    | missing generated =>
      cases hsecond with
      | missing generated' =>
        rw [reportLine?_missing, reportLine?_missing, Option.some_inj, String.ofList_inj] at hline
        obtain rfl := missingLine_inj hline
        exact .missing generated
      | mismatch reference diffImage hmetric =>
        rw [reportLine?_missing, reportLine?_mismatch, Option.some_inj, String.ofList_inj] at hline
        exact absurd hline.symm (mismatchLine_ne_missingLine reference generated hmetric)
    | mismatch reference diffImage hmetric =>
      cases hsecond with
      | missing generated =>
        rw [reportLine?_missing, reportLine?_mismatch, Option.some_inj, String.ofList_inj] at hline
        exact absurd hline (mismatchLine_ne_missingLine reference generated hmetric)
      | mismatch reference' diffImage' hmetric' =>
        rw [reportLine?_mismatch, reportLine?_mismatch, Option.some_inj, String.ofList_inj] at hline
        obtain ⟨rfl, rfl⟩ := mismatchLine_inj hmetric hmetric' hline
        exact .mismatch reference _ diffImage diffImage'
  · rintro (⟨generated⟩ | ⟨reference, metric, diffImage, diffImage'⟩)
    · rfl
    · rfl

/-- The number nearest to a tenth. -/
def tenth : Metric := ⟨⟨0x3FB999999999999A⟩⟩

/-- Files named after report lines: a line about one of them is taken for no
    other, and the diff image does not show in it. -/
theorem lines_told_apart :
    NamesFile (.mismatch ⟨"File a: 0"⟩ tenth none) ∧ NamesFile (.missing ⟨"a: 0: 0.1"⟩) ∧
    (mismatch ⟨"File a: 0"⟩ tenth none).reportLine? = some "File a: 0: 0.1" ∧
    (missing ⟨"a: 0: 0.1"⟩).reportLine? = some "File a: 0: 0.1 does not exist" ∧
    (mismatch ⟨"File a: 0"⟩ tenth none).reportLine? ≠ (missing ⟨"a: 0: 0.1"⟩).reportLine? ∧
    (mismatch ⟨"File a: 0"⟩ tenth none).reportLine?
      = (mismatch ⟨"File a: 0"⟩ tenth (some ⟨"diffs/a"⟩)).reportLine? := by
  have hmismatch (diffImage : Option Path) :
      NamesFile (.mismatch ⟨"File a: 0"⟩ tenth diffImage) := .mismatch _ diffImage (by decide)
  have hmissing : NamesFile (.missing ⟨"a: 0: 0.1"⟩) := .missing _
  refine ⟨hmismatch none, hmissing, by decide +kernel, by decide +kernel, ?_, ?_⟩
  · intro hline
    cases (line_eq_iff_tellsSame (hmismatch none) hmissing).1 hline
  · exact (line_eq_iff_tellsSame (hmismatch none) (hmismatch _)).2 (.mismatch _ _ _ _)

end Outcome

end RenderCheck
