import RenderCheck.Proofs.Run.Beside

/-! # The lines of a report

    A report has a line for each file it is about, and each line is ended. Read
    line by line it gives these lines back, unless a path in it has a line break
    of its own: names of files may have one, and paths are written as they are.

    * **Lines**: what is read of lines that were ended (`splitOn_endLines_iff`).
    * **What lines are about**: a line has the line breaks of its path and no
      others (`Outcome.count_reportLine`).
    * **Runs**: `run_lines_iff`. -/

namespace RenderCheck

variable {μ : Type}

/-! ## Lines -/

namespace Text

/-- Lines one after the other, each ended. -/
def endLines (lines : List (List Char)) : List Char :=
  lines.flatMap (· ++ ['\n'])

@[simp] theorem endLines_cons (line : List Char) (lines : List (List Char)) :
    endLines (line :: lines) = line ++ '\n' :: endLines lines := by
  unfold endLines
  rw [List.flatMap_cons, List.append_assoc]
  rfl

/-- There are the line breaks that end lines, and those inside of them. -/
theorem count_endLines (lines : List (List Char)) :
    (endLines lines).count '\n' = lines.length + lines.flatten.count '\n' := by
  induction lines with
  | nil => rfl
  | cons line lines ih =>
    rw [endLines_cons, List.count_append, List.count_cons_self, ih, List.length_cons,
      List.flatten_cons, List.count_append]
    omega

/-- A text falls into one part more than it has line breaks. -/
theorem length_splitOn (text : List Char) :
    (text.splitOn '\n').length = text.count '\n' + 1 := by
  induction text with
  | nil => rfl
  | cons c text ih =>
    rw [List.splitOn_cons_eq_if_modifyHead, List.count_cons]
    cases hbreak : c == '\n' with
    | true =>
      rw [if_pos rfl, List.length_cons, ih]
      simp
    | false => simp [ih]

/-- Lines without line breaks are what is read of them. -/
theorem splitOn_endLines {lines : List (List Char)} (h : ∀ line ∈ lines, '\n' ∉ line) :
    (endLines lines).splitOn '\n' = lines ++ [[]] := by
  induction lines with
  | nil => rfl
  | cons line lines ih =>
    rw [List.forall_mem_cons] at h
    rw [endLines_cons, List.splitOn_append_cons_self, List.splitOn_eq_singleton h.1, ih h.2,
      List.cons_append, List.nil_append, List.cons_append]

/-- There are as many line breaks as lines if no line has one inside. -/
theorem count_endLines_iff (lines : List (List Char)) :
    (endLines lines).count '\n' = lines.length ↔ ∀ line ∈ lines, '\n' ∉ line := by
  rw [count_endLines, Nat.add_eq_left, List.count_eq_zero]
  simp only [List.mem_flatten, not_exists, not_and]

/-- Lines are what is read of them if and only if no line has a line break. -/
theorem splitOn_endLines_iff (lines : List (List Char)) :
    (endLines lines).splitOn '\n' = lines ++ [[]] ↔ ∀ line ∈ lines, '\n' ∉ line := by
  refine ⟨fun hread => ?_, splitOn_endLines⟩
  -- there are as many line breaks as lines, so none is left for the inside of a line
  have hlength := congrArg List.length hread
  rw [length_splitOn, List.length_append, List.length_singleton, Nat.add_right_cancel_iff] at hlength
  exact (count_endLines_iff lines).1 hlength

end Text

/-! ## Numbers -/

theorem Decimal.newline_notMem_render (d : Decimal) : '\n' ∉ d.render := by
  have hdigits : '\n' ∉ Nat.toDigits 10 d.digits := by
    intro hmem
    have hdigit := Nat.isDigit_of_mem_toDigits (by decide) (by decide) hmem
    cases hdigit
  -- the positional form is cut out of the digits with zeros around them
  have hpadded (before after : Nat) :
      '\n' ∉ List.replicate before '0' ++ Nat.toDigits 10 d.digits ++ List.replicate after '0' := by
    simp [hdigits, List.mem_replicate]
  have hwhole : '\n' ∉ d.positional.1 := fun hmem => hpadded _ _ (List.mem_of_mem_take hmem)
  have hfraction : '\n' ∉ d.positional.2 := fun hmem => hpadded _ _ (List.mem_of_mem_drop hmem)
  unfold render
  rcases hparts : d.positional with ⟨whole, fraction⟩
  rw [hparts] at hwhole hfraction
  cases fraction with
  | nil => exact hwhole
  | cons digit fraction =>
    dsimp only at hwhole hfraction ⊢
    simp only [List.mem_append, List.mem_cons, not_or] at hfraction ⊢
    exact ⟨hwhole, by decide, hfraction⟩

/-- Numbers are written in one line. -/
theorem Binary64.newline_notMem_render (x : Binary64) : '\n' ∉ x.render := by
  have hsigned {text : List Char} (h : '\n' ∉ text) : '\n' ∉ x.signed text := by
    unfold signed
    split
    · simpa using h
    · exact h
  unfold render
  split
  · decide
  · refine hsigned ?_
    split
    · decide
    split
    · decide
    · exact Decimal.newline_notMem_render _

/-! ## What lines are about -/

namespace Outcome

/-- The path in the line of an outcome. -/
def reportedPath? : Outcome → Option Path
  | missing generated => some generated
  | mismatch reference _ _ => some reference
  | _ => none

/-- A line has the line breaks of its path and no others. -/
theorem count_reportLine {outcome : Outcome} (htext : outcome.isTextDifference = false) :
    (outcome.reportLine?.elim [] String.toList).count '\n'
      = (outcome.reportedPath?.elim [] fun path => path.text.toList).count '\n' := by
  cases outcome with
  | missing generated =>
    have hbefore : "File ".toList.count '\n' = 0 := by decide
    have hafter : " does not exist".toList.count '\n' = 0 := by decide
    simp only [reportLine?, reportedPath?, Option.elim_some, String.toList_append,
      List.count_append, hbefore, hafter, Nat.zero_add, Nat.add_zero]
  | mismatch reference metric diffImage =>
    have hbetween : ": ".toList.count '\n' = 0 := by decide
    have hmetric : metric.text.toList.count '\n' = 0 := by
      unfold Metric.text Binary64.text
      rw [String.toList_ofList]
      exact List.count_eq_zero.2 metric.value.newline_notMem_render
    simp only [reportLine?, reportedPath?, Option.elim_some, String.toList_append,
      List.count_append, hbetween, hmetric, Nat.add_zero]
  | textDiffers output => cases htext
  | _ => rfl

end Outcome

/-- The lines of some outcomes. -/
def reportLines (outcomes : List Outcome) : List (List Char) :=
  (outcomes.filterMap Outcome.reportLine?).map String.toList

/-- A report is its lines, each ended. -/
theorem toList_reportText (outcomes : List Outcome) :
    (reportText outcomes).toList = Text.endLines (reportLines outcomes) := by
  unfold reportText reportLines Text.endLines
  rw [String.toList_join, List.flatMap_map, List.flatMap_map]
  simp

section Outcomes

variable {outcomes : List Outcome}

/-- Without texts that differ there is a line for what is missing and one for
    each mismatch. -/
theorem length_reportLines (htexts : ∀ outcome ∈ outcomes, outcome.isTextDifference = false) :
    (reportLines outcomes).length
      = (Summary.tally outcomes).missing + (Summary.tally outcomes).mismatched := by
  have hline {outcome : Outcome} (htext : outcome.isTextDifference = false) :
      outcome.reportLine?.isSome.toNat = outcome.isMissing.toNat + outcome.isMismatch.toNat := by
    cases outcome with
    | textDiffers output => cases htext
    | _ => rfl
  unfold reportLines Summary.tally
  rw [List.length_map, List.length_filterMap_eq_countP]
  induction outcomes using List.reverseRecOn with
  | nil => rfl
  | append_singleton outcomes outcome ih =>
    rw [List.forall_mem_append, List.forall_mem_singleton] at htexts
    have hrest := ih htexts.1
    have hlast := hline htexts.2
    simp only [countP_concat] at hrest ⊢
    omega

/-- The lines have the line breaks of the paths and no others. -/
theorem count_reportLines (htexts : ∀ outcome ∈ outcomes, outcome.isTextDifference = false) :
    (reportLines outcomes).flatten.count '\n'
      = ((outcomes.filterMap Outcome.reportedPath?).flatMap (·.text.toList)).count '\n' := by
  -- an outcome puts its line in front of the others, and its path in front of the others
  have hlines (outcome : Outcome) (outcomes : List Outcome) :
      (reportLines (outcome :: outcomes)).flatten
        = outcome.reportLine?.elim [] String.toList ++ (reportLines outcomes).flatten := by
    unfold reportLines
    rw [List.filterMap_cons]
    cases outcome.reportLine? <;> rfl
  have hpaths (outcome : Outcome) (outcomes : List Outcome) :
      ((outcome :: outcomes).filterMap Outcome.reportedPath?).flatMap (·.text.toList)
        = (outcome.reportedPath?.elim [] fun path => path.text.toList)
          ++ (outcomes.filterMap Outcome.reportedPath?).flatMap (·.text.toList) := by
    rw [List.filterMap_cons]
    cases outcome.reportedPath? <;> rfl
  induction outcomes with
  | nil => rfl
  | cons outcome outcomes ih =>
    rw [List.forall_mem_cons] at htexts
    have hline := Outcome.count_reportLine htexts.1
    rw [hlines, hpaths, List.count_append, List.count_append, hline, ih htexts.2]

/-- No line has a line break if no path has one. -/
theorem forall_newline_notMem_iff (htexts : ∀ outcome ∈ outcomes, outcome.isTextDifference = false) :
    (∀ line ∈ reportLines outcomes, '\n' ∉ line) ↔
      ∀ path ∈ outcomes.filterMap Outcome.reportedPath?, '\n' ∉ path.text.toList := by
  have hsame := count_reportLines htexts
  have hlines : (reportLines outcomes).flatten.count '\n' = 0 ↔
      ∀ line ∈ reportLines outcomes, '\n' ∉ line := by
    rw [List.count_eq_zero]
    simp only [List.mem_flatten, not_exists, not_and]
  have hpaths : ((outcomes.filterMap Outcome.reportedPath?).flatMap (·.text.toList)).count '\n' = 0 ↔
      ∀ path ∈ outcomes.filterMap Outcome.reportedPath?, '\n' ∉ path.text.toList := by
    rw [List.count_eq_zero]
    simp only [List.mem_flatMap, not_exists, not_and]
  rw [← hlines, ← hpaths, hsame]

end Outcomes

/-! ## Runs -/

namespace Comparator

variable {c : Comparator μ}

/-- Without a way to compare texts no texts are found to differ. -/
theorem yields_comparePair (htexts : c.textDiffer = none) (pair : FilePair) :
    Action.Yields (fun outcome => outcome.isTextDifference = false) (c.comparePair pair) := by
  have himages : Action.Yields (fun outcome => outcome.isTextDifference = false)
      (c.compareImages pair) := by
    refine Action.yields_bind _ fun metric => Action.yields_bind _ fun _ => ?_
    split
    · exact Action.yields_pure rfl
    cases c.config.diffDir with
    | none => exact Action.yields_pure rfl
    | some dir => exact Action.yields_bind _ fun output => Action.yields_pure rfl
  refine Action.yields_bind _ fun files => ?_
  split
  · exact Action.yields_bind _ fun _ => Action.yields_pure rfl
  split
  · exact himages
  · unfold compareTexts
    rw [htexts]
    exact Action.yields_pure rfl

/-- Nor are they along a chain. -/
theorem Chain.isTextDifference_eq (htexts : c.textDiffer = none) {first last : Machine μ}
    {steps : List (Step μ)} (h : c.Chain first steps last) :
    ∀ outcome ∈ steps.map Step.outcome, outcome.isTextDifference = false := by
  induction h with
  | nil => exact fun _ hmem => nomatch hmem
  | cons step hstep _ ih =>
    rw [List.map_cons, List.forall_mem_cons]
    exact ⟨yields_comparePair htexts step.pair _ _ _ hstep, ih⟩

/-- A run that succeeds is what its comparisons make of it. -/
theorem exists_chain_of_run_ok {state : RunState μ} (hsink : state.sink.NeverFails)
    {summary : Summary} (hrun : (c.run.run.run state).1 = .ok summary) :
    ∃ steps last, c.Chain (c.opened state.machine) steps last ∧
      c.run.run.run state = ending state steps last none := by
  have hvalid := valid_of_run_ok hrun
  obtain ⟨last, error?, hgoes⟩ := goes_met hsink hvalid
  have hending := (run_eq_runOver_met hvalid).trans (hgoes.run_runOver hsink hvalid)
  generalize c.met state = items, c.history state = steps at hgoes hending
  -- a run that an item has stopped does not succeed
  cases hgoes with
  | through hchain => exact ⟨steps, last, hchain, hending⟩
  | stopped rest hchain hstops =>
    rw [hending] at hrun
    cases hrun

/-- A run that succeeds and compares no texts writes the lines of what is
    missing and of mismatches, each ended. What it writes has as many line
    breaks as it counts of these, and gives their lines when it is read line by
    line, if and only if no reported path has a line break. -/
theorem run_lines_iff (htexts : c.textDiffer = none) {state : RunState μ}
    (hsink : state.sink.NeverFails) {summary : Summary}
    (hrun : (c.run.run.run state).1 = .ok summary) :
    ∃ steps last, c.Chain (c.opened state.machine) steps last ∧
      c.run.run.run state = ending state steps last none ∧
      let found := steps.map Step.outcome
      let reported := found.filterMap Outcome.reportedPath?
      let text := (reportText found).toList
      (c.run.run.run state).2.sink = state.sink.add (Text.encode text) ∧
      (reportLines found).length = summary.missing + summary.mismatched ∧
      text.count '\n' = summary.missing + summary.mismatched
        + (reported.flatMap (·.text.toList)).count '\n' ∧
      (text.count '\n' = summary.missing + summary.mismatched ↔
        ∀ path ∈ reported, '\n' ∉ path.text.toList) ∧
      (text.splitOn '\n' = reportLines found ++ [[]] ↔
        ∀ path ∈ reported, '\n' ∉ path.text.toList) := by
  obtain ⟨steps, last, hchain, hending⟩ := exists_chain_of_run_ok hsink hrun
  refine ⟨steps, last, hchain, hending, ?_⟩
  intro found reported text
  have hfound : ∀ outcome ∈ found, outcome.isTextDifference = false :=
    hchain.isTextDifference_eq htexts
  have hsummary : summary = Summary.tally found := by
    rw [hending] at hrun
    cases hrun
    rfl
  have hlength : (reportLines found).length = summary.missing + summary.mismatched := by
    rw [hsummary, length_reportLines hfound]
  have htext : text = Text.endLines (reportLines found) := toList_reportText found
  -- without texts only a path can bring a line break of its own
  have hpaths := forall_newline_notMem_iff hfound
  refine ⟨by rw [hending]; rfl, hlength, ?_, ?_, ?_⟩
  · rw [htext, Text.count_endLines, hlength, count_reportLines hfound]
  · rw [htext, ← hlength, Text.count_endLines_iff, hpaths]
  · rw [htext, Text.splitOn_endLines_iff, hpaths]

/-! ## Runs over one file -/

namespace LoneFile

/-- There is a file of some name in one tree and no other tree. -/
def named (name : String) : RunState Unit where
  machine := ⟨⟨[], [(["ref"], .directory), (["ref", name], .file .empty false)]⟩, (), [], none⟩
  sink := {}

/-- A file with an ordinary name is reported in one line. -/
theorem one_line_written :
    comparator.textDiffer = none ∧ (named "a").sink.NeverFails ∧
    (comparator.run.run.run (named "a")).1 = .ok { filesChecked := 1, missing := 1 } ∧
    ∃ found : List Outcome,
      Text.encode "File out/a does not exist\n".toList
        = Text.encode (reportText found).toList ∧
      (reportLines found).length = 1 ∧
      ((reportText found).toList.count '\n' = 1 ↔
        ∀ path ∈ found.filterMap Outcome.reportedPath?, '\n' ∉ path.text.toList) ∧
      ((reportText found).toList.splitOn '\n' = reportLines found ++ [[]] ↔
        ∀ path ∈ found.filterMap Outcome.reportedPath?, '\n' ∉ path.text.toList) := by
  have hsink : (named "a").sink.NeverFails := ⟨rfl, rfl⟩
  have hrun : (comparator.run.run.run (named "a")).1 = .ok { filesChecked := 1, missing := 1 } := by
    decide +kernel
  have hwritten : (comparator.run.run.run (named "a")).2.sink.written
      = Text.encode "File out/a does not exist\n".toList := by decide +kernel
  obtain ⟨steps, last, -, -, hsent, hlength, -, hcount, hread⟩ :=
    run_lines_iff (c := comparator) rfl hsink hrun
  rw [hsent] at hwritten
  exact ⟨rfl, hsink, hrun, steps.map Step.outcome, hwritten.symm, hlength, hcount, hread⟩

/-- A file whose name has a line break is one file that is missing, and what is
    written of it are two lines. -/
theorem two_lines_written :
    comparator.textDiffer = none ∧ (named "a\nb").sink.NeverFails ∧
    (named "a\nb").machine.files.Sound ∧
    (comparator.run.run.run (named "a\nb")).1 = .ok { filesChecked := 1, missing := 1 } ∧
    (comparator.run.run.run (named "a\nb")).2.sink.written
      = Text.encode (reportText [.missing ⟨"out/a\nb"⟩]).toList ∧
    (reportText [.missing ⟨"out/a\nb"⟩]).toList.count '\n' = 2 ∧
    (reportText [.missing ⟨"out/a\nb"⟩]).toList.splitOn '\n'
      = ["File out/a".toList, "b does not exist".toList, []] ∧
    reportLines [.missing ⟨"out/a\nb"⟩] = ["File out/a\nb does not exist".toList] :=
  ⟨rfl, ⟨rfl, rfl⟩, by decide +kernel, by decide +kernel, by decide +kernel, by decide +kernel,
    by decide +kernel, by decide +kernel⟩

end LoneFile

end Comparator

end RenderCheck
