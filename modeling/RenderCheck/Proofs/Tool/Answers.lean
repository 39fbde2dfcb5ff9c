import RenderCheck.Proofs.Run.Effects

/-! # What programs answer

    A program that was run leaves a word that says how it ended, and what it
    printed. Only some ways to end are answers, and each operation has rules of
    its own: an exit with 0 or 1 is an answer of a program that compares, and only
    an exit with 0 of the one that puts images together. Everything else is a
    failure that names the program, whatever was printed.

    * **Endings**: what the word says of a program that is over (`Status.Ended`).
    * **Answers** of a program that compares images, of one that compares texts,
      and of two that draw together (`Measures`, `Differs`, `Renders`).
    * **Operations** give these answers and no others (`Backend.tools_answer`). -/

namespace RenderCheck

variable {μ : Type}

/-! ## Endings -/

namespace Tool.Status

/-- The words of programs that are over: each exited with a code of one byte, or
    was killed by a signal, and then its memory may have been saved. -/
inductive Ended : Status → Prop where
  | exited (code : Nat) : code < 256 → Ended (exited code)
  | killed (signal : Nat) (dumped : Bool) : 0 < signal → signal < 127 →
    Ended ⟨UInt32.ofNat (signal + if dumped then 128 else 0)⟩

theorem toNat_word_exited {code : Nat} (h : code < 256) : (exited code).word.toNat = code * 256 := by
  rw [exited, UInt32.toNat_ofNat', Nat.mod_eq_of_lt h, Nat.mod_eq_of_lt (by omega)]

theorem code?_exited {code : Nat} (h : code < 256) : (exited code).code? = some code := by
  have hending : (exited code).ending = 0 := by
    rw [ending, toNat_word_exited h]
    omega
  rw [code?, if_pos hending, detail, toNat_word_exited h, Nat.mul_div_cancel _ (by decide),
    Nat.mod_eq_of_lt h]

/-- A program that a signal killed has no code. -/
theorem code?_of_signal? {s : Status} {signal : Nat} (h : s.signal? = some signal) :
    s.code? = none := by
  unfold signal? at h
  split at h
  · next hkilled => exact if_neg (by omega)
  · cases h

theorem signal?_killed {signal : Nat} (dumped : Bool) (hlow : 0 < signal) (hhigh : signal < 127) :
    (Status.mk (UInt32.ofNat (signal + if dumped then 128 else 0))).signal? = some signal := by
  have hword : signal + (if dumped then 128 else 0) < 2 ^ 32 := by split <;> omega
  have hending :
      (Status.mk (UInt32.ofNat (signal + if dumped then 128 else 0))).ending = signal := by
    rw [ending, UInt32.toNat_ofNat', Nat.mod_eq_of_lt hword]
    split <;> omega
  rw [signal?, hending, if_pos ⟨hlow, hhigh⟩]

namespace Ended

variable {s : Status}

/-- A program that is over has a code only if it exited, and then the code is all
    there is in the word. -/
theorem code?_eq_some_iff (h : s.Ended) (code : Nat) :
    s.code? = some code ↔ code < 256 ∧ s = Status.exited code := by
  constructor
  · intro hcode
    cases h with
    | exited own hown =>
      rw [code?_exited hown] at hcode
      obtain rfl := Option.some.inj hcode
      exact ⟨hown, rfl⟩
    | killed signal dumped hlow hhigh =>
      rw [code?_of_signal? (signal?_killed dumped hlow hhigh)] at hcode
      cases hcode
  · rintro ⟨hcode, rfl⟩
    exact code?_exited hcode

/-- So nothing went wrong just if the code is 0. -/
theorem success_iff (h : s.Ended) : s.success = true ↔ s.code? = some 0 := by
  rw [h.code?_eq_some_iff, success, decide_eq_true_eq]
  constructor
  · intro hword
    exact ⟨by decide, congrArg Status.mk hword⟩
  · rintro ⟨-, rfl⟩
    rfl

end Ended

end Tool.Status

/-! ## Answers -/

namespace Tool

namespace Finished

/-- What a program printed, without the blanks around it. -/
def message (finished : Finished) : String :=
  String.ofList (Text.trim finished.combinedOutput.toList)

/-- A program that compares has found no difference. -/
def SaysAlike (finished : Finished) : Prop :=
  finished.status.code? = some 0

/-- A program that compares has found a difference. -/
def SaysUnlike (finished : Finished) : Prop :=
  finished.status.code? = some 1

/-- A program that compares has ended in a way that is no answer. -/
def Fails (finished : Finished) : Prop :=
  ¬ finished.SaysAlike ∧ ¬ finished.SaysUnlike

end Finished

/-- What is left of a program that is launched, or why it is not started. -/
def Toolbox.launched (toolbox : Toolbox) (files : FileTree) (launch : Launch) :
    Except IoError Finished :=
  (toolbox.start files launch).map fun _ => (toolbox.perform files launch).1

/-- Why there is no answer of a program that compares: it was not started, or it
    failed. -/
def NoAnswer (program : String) (ran : Except IoError Finished) (error : CompareError) : Prop :=
  (∃ cause, ran = .error cause ∧ error = .spawn program cause) ∨
  ∃ finished, ran = .ok finished ∧ finished.Fails ∧
    error = .toolFailed program finished.status finished.message

end Tool

/-- What a program that compares images makes of a pair. -/
structure Backend.Measures (program : String) (ran : Except IoError Tool.Finished)
    (result : Except CompareError Metric) : Prop where
  /-- Images that it finds alike have the metric zero, whatever it printed; else
      the metric is what it printed. -/
  ok_iff (metric : Metric) : result = .ok metric ↔ ∃ finished, ran = .ok finished ∧
    (finished.SaysAlike ∧ metric = .identical ∨
      finished.SaysUnlike ∧ Metric.read finished.combinedOutput = .ok metric)
  /-- There is none without an answer, or if what it printed is no metric. -/
  error_iff (error : CompareError) : result = .error error ↔ Tool.NoAnswer program ran error ∨
    ∃ finished, ran = .ok finished ∧ finished.SaysUnlike ∧
      Metric.read finished.combinedOutput = .error error

/-- What a program that compares texts makes of a pair. -/
structure TextDiffer.Differs (program : String) (ran : Except IoError Tool.Finished)
    (result : Except CompareError (Option String)) : Prop where
  /-- The texts are alike. -/
  none_iff : result = .ok none ↔ ∃ finished, ran = .ok finished ∧ finished.SaysAlike
  /-- They differ by what it printed, with the blanks around it and even if that is
      nothing. -/
  some_iff (text : String) : result = .ok (some text) ↔ ∃ finished, ran = .ok finished ∧
    finished.SaysUnlike ∧ text = finished.combinedOutput
  /-- There is no answer. -/
  error_iff (error : CompareError) : result = .error error ↔ Tool.NoAnswer program ran error

/-- What two programs that draw together make of a pair, by how they were started
    and what is left of them. -/
structure Backend.Renders (programs : Programs) (comparing composing : Except IoError Unit)
    (compared composed : Tool.Finished) (result : Except CompareError Unit) : Prop where
  /-- The second has to succeed, and the first has to have compared the images. -/
  ok_iff : result = .ok () ↔ comparing = .ok () ∧ composing = .ok () ∧
    composed.status.success = true ∧ (compared.SaysAlike ∨ compared.SaysUnlike)
  /-- The first that is not started is at fault; of two that ran the second, if it
      did not succeed, whatever became of the first; else the first, and nothing of
      what it printed is told. -/
  error_iff (error : CompareError) : result = .error error ↔
    (∃ cause, comparing = .error cause ∧ error = .spawn programs.compare cause) ∨
    (comparing = .ok () ∧ ∃ cause, composing = .error cause ∧
      error = .spawn programs.montage cause) ∨
    (comparing = .ok () ∧ composing = .ok () ∧ composed.status.success = false ∧
      error = .toolFailed programs.montage composed.status composed.message) ∨
    (comparing = .ok () ∧ composing = .ok () ∧ composed.status.success = true ∧
      compared.Fails ∧ error = .toolFailed programs.compare compared.status "")

/-! ## Reading answers -/

section Reading

variable {finished : Tool.Finished}

/-- A program that compares says one thing or the other, or it fails. -/
theorem Tool.Finished.says_or_fails (finished : Tool.Finished) :
    finished.SaysAlike ∨ finished.SaysUnlike ∨ finished.Fails := by
  unfold Fails
  rw [← not_or]
  exact or_assoc.1 (em _)

/-- But not both. -/
theorem Tool.Finished.SaysAlike.not_saysUnlike (h : finished.SaysAlike) :
    ¬ finished.SaysUnlike := fun hunlike =>
  absurd (Option.some.inj (h.symm.trans hunlike)) (by decide)

namespace Backend

variable (program : String)

theorem readMeasure_of_alike (h : finished.SaysAlike) :
    readMeasure program finished = .ok .identical := by
  rw [readMeasure, h]
  rfl

theorem readMeasure_of_unlike (h : finished.SaysUnlike) :
    readMeasure program finished = Metric.read finished.combinedOutput := by
  rw [readMeasure, h]
  rfl

theorem readMeasure_of_fails (h : finished.Fails) :
    readMeasure program finished = .error (.toolFailed program finished.status finished.message) := by
  unfold readMeasure
  split
  · next hcode => exact absurd hcode h.1
  · next hcode => exact absurd hcode h.2
  · rfl

end Backend

namespace TextDiffer

variable (program : String)

theorem readDiff_of_alike (h : finished.SaysAlike) : readDiff program finished = .ok none := by
  rw [readDiff, h]
  rfl

theorem readDiff_of_unlike (h : finished.SaysUnlike) :
    readDiff program finished = .ok (some finished.combinedOutput) := by
  rw [readDiff, h]
  rfl

theorem readDiff_of_fails (h : finished.Fails) :
    readDiff program finished = .error (.toolFailed program finished.status finished.message) := by
  unfold readDiff
  split
  · next hcode => exact absurd hcode h.1
  · next hcode => exact absurd hcode h.2
  · rfl

end TextDiffer

namespace Backend

variable (programs : Programs) {compared composed : Tool.Finished}

theorem readRender_of_not_success (h : composed.status.success = false) :
    readRender programs compared composed
      = .error (.toolFailed programs.montage composed.status composed.message) := by
  rw [readRender, h]
  rfl

theorem readRender_of_answer (h : composed.status.success = true)
    (hanswer : compared.SaysAlike ∨ compared.SaysUnlike) :
    readRender programs compared composed = .ok () := by
  rw [readRender, h, if_pos rfl]
  rcases hanswer with hanswer | hanswer
  · rw [hanswer]
    rfl
  · rw [hanswer]
    rfl

theorem readRender_of_fails (h : composed.status.success = true) (hfails : compared.Fails) :
    readRender programs compared composed
      = .error (.toolFailed programs.compare compared.status "") := by
  rw [readRender, h, if_pos rfl]
  split
  · next hcode => exact absurd hcode hfails.1
  · next hcode => exact absurd hcode hfails.2
  · rfl

end Backend

end Reading

/-! ## Operations -/

/-- The answer of a program that was to be launched. -/
def answerOf {α : Type} (program : String) (read : Tool.Finished → Except CompareError α) :
    Except IoError Tool.Finished → Except CompareError α
  | .error cause => .error (.spawn program cause)
  | .ok finished => read finished

theorem Backend.measures_answerOf (program : String) (ran : Except IoError Tool.Finished) :
    Measures program ran (answerOf program (readMeasure program) ran) := by
  cases ran with
  | error cause => exact ⟨by simp [answerOf], by simp [answerOf, Tool.NoAnswer, eq_comm]⟩
  | ok finished =>
    rcases finished.says_or_fails with halike | hunlike | hfails
    · have hnot := halike.not_saysUnlike
      constructor <;>
        simp [answerOf, readMeasure_of_alike program halike, Tool.NoAnswer, Tool.Finished.Fails,
          halike, hnot, eq_comm]
    · have hnot : ¬ finished.SaysAlike := fun halike => halike.not_saysUnlike hunlike
      constructor <;>
        simp [answerOf, readMeasure_of_unlike program hunlike, Tool.NoAnswer, Tool.Finished.Fails,
          hunlike, hnot]
    · constructor <;>
        simp [answerOf, readMeasure_of_fails program hfails, Tool.NoAnswer, hfails, hfails.1,
          hfails.2, eq_comm]

theorem TextDiffer.differs_answerOf (program : String) (ran : Except IoError Tool.Finished) :
    Differs program ran (answerOf program (readDiff program) ran) := by
  cases ran with
  | error cause =>
    exact ⟨by simp [answerOf], by simp [answerOf], by simp [answerOf, Tool.NoAnswer, eq_comm]⟩
  | ok finished =>
    rcases finished.says_or_fails with halike | hunlike | hfails
    · have hnot := halike.not_saysUnlike
      constructor <;>
        simp [answerOf, readDiff_of_alike program halike, Tool.NoAnswer, Tool.Finished.Fails,
          halike, hnot]
    · have hnot : ¬ finished.SaysAlike := fun halike => halike.not_saysUnlike hunlike
      constructor <;>
        simp [answerOf, readDiff_of_unlike program hunlike, Tool.NoAnswer, Tool.Finished.Fails,
          hunlike, hnot, eq_comm]
    · constructor <;>
        simp [answerOf, readDiff_of_fails program hfails, Tool.NoAnswer, hfails, hfails.1,
          hfails.2, eq_comm]

/-- The answer of two programs that were to be launched together. -/
def Backend.answerOfBoth (programs : Programs) (comparing composing : Except IoError Unit)
    (compared composed : Tool.Finished) : Except CompareError Unit := do
  comparing.mapError (.spawn programs.compare)
  composing.mapError (.spawn programs.montage)
  readRender programs compared composed

theorem Backend.renders_answerOfBoth (programs : Programs) (comparing composing : Except IoError Unit)
    (compared composed : Tool.Finished) :
    Renders programs comparing composing compared composed
      (answerOfBoth programs comparing composing compared composed) := by
  cases comparing with
  | error cause =>
    show Renders _ _ _ _ _ (.error (.spawn programs.compare cause))
    exact ⟨by simp, fun error => by simpa using eq_comm⟩
  | ok _ =>
    cases composing with
    | error cause =>
      show Renders _ _ _ _ _ (.error (.spawn programs.montage cause))
      exact ⟨by simp, fun error => by simpa using eq_comm⟩
    | ok _ =>
      show Renders _ _ _ _ _ (readRender programs compared composed)
      cases hsuccess : composed.status.success with
      | false =>
        rw [readRender_of_not_success programs hsuccess]
        exact ⟨by simp [hsuccess], fun error => by simpa [hsuccess] using eq_comm⟩
      | true =>
        rcases or_assoc.2 compared.says_or_fails with hanswer | hfails
        · have hnot : ¬ compared.Fails := not_and_or.2 (by simpa using hanswer)
          rw [readRender_of_answer programs hsuccess hanswer]
          exact ⟨by simp [hsuccess, hanswer], by simp [hsuccess, hnot]⟩
        · rw [readRender_of_fails programs hsuccess hfails]
          exact ⟨by simp [hfails.1, hfails.2], fun error => by simpa [hsuccess, hfails] using eq_comm⟩

/-- A program is launched, and what is left of it is read. -/
theorem Action.result_launch {α : Type} (toolbox : Tool.Toolbox) (launch : Tool.Launch)
    (read : Tool.Finished → Except CompareError α) (machine : Machine μ) :
    ((Backend.launch toolbox launch >>= fun finished => Action.ofExcept (read finished) :
        Action μ α).run.run machine).1
      = answerOf launch.program read (toolbox.launched machine.files launch) := by
  unfold Tool.Toolbox.launched
  cases hstart : toolbox.start machine.files launch with
  | error cause =>
    rw [run_bind_of_error (run_launch_of_error toolbox hstart)]
    rfl
  | ok _ =>
    rw [run_bind_of_ok (run_launch_of_ok toolbox hstart)]
    rfl

/-- How a program is launched to compare two texts. -/
def TextDiffer.diffing (program : String) (reference generated : Path) : Tool.Launch :=
  ⟨program, ["-w", reference.text, generated.text], []⟩

theorem TextDiffer.result_external (toolbox : Tool.Toolbox) (program : String)
    (reference generated : Path) (machine : Machine μ) :
    ((external toolbox program reference generated).run.run machine).1
      = answerOf program (readDiff program)
          (toolbox.launched machine.files (diffing program reference generated)) := by
  unfold external
  rw [run_bind_of_ok (Action.run_emit _ machine)]
  exact Action.result_launch toolbox (diffing program reference generated) _ (Action.said machine _)

namespace Backend

/-- How the comparing program is launched to measure a pair. -/
def measuring (programs : Programs) (reference generated : Path) : Tool.Launch :=
  ⟨programs.compare, ["-metric", "mse", reference.text, generated.text, "null:"], []⟩

/-- How it is launched to show the differences of a pair. -/
def comparing (programs : Programs) (reference generated : Path) : Tool.Launch :=
  ⟨programs.compare, [reference.text, generated.text, "png:-"], []⟩

/-- How the second program is launched to put a pair and a picture of its
    differences together. -/
def composing (programs : Programs) (reference generated output : Path) (picture : List UInt8) :
    Tool.Launch :=
  ⟨programs.montage, [reference.text, "-", generated.text, "-tile", "3x1", "-geometry", "+0+0",
    output.text], picture⟩

section Tools

variable (toolbox : Tool.Toolbox) (programs : Programs) (reference generated output : Path)

/-- What is left of both programs that draw a pair. -/
def drawn (files : FileTree) : Tool.Finished × Tool.Finished :=
  let (compared, files) := toolbox.perform files (comparing programs reference generated)
  (compared, (toolbox.perform files (composing programs reference generated output compared.output)).1)

theorem result_measure (machine : Machine μ) :
    (((externalTools toolbox programs).measure reference generated).run.run machine).1
      = answerOf programs.compare (readMeasure programs.compare)
          (toolbox.launched machine.files (measuring programs reference generated)) := by
  unfold externalTools
  dsimp only
  rw [run_bind_of_ok (Action.run_emit _ machine)]
  exact Action.result_launch toolbox (measuring programs reference generated) _
    (Action.said machine _)

theorem result_renderDiff (machine : Machine μ) :
    (((externalTools toolbox programs).renderDiff reference generated output).run.run machine).1
      = answerOfBoth programs
          (toolbox.start machine.files (comparing programs reference generated))
          (toolbox.start machine.files (composing programs reference generated output []))
          (drawn toolbox programs reference generated output machine.files).1
          (drawn toolbox programs reference generated output machine.files).2 := by
  unfold externalTools
  dsimp only
  rw [run_bind_of_ok (Action.run_emit _ machine)]
  -- both programs are started on the files as they were, as an event changes none
  generalize hsaid : Action.said machine _ = said
  have hfiles : said.files = machine.files := by
    rw [← hsaid]
    rfl
  have hcomparing := Action.run_ofFiles (.spawn programs.compare)
    (toolbox.start · (comparing programs reference generated)) said
  have hcomposing := Action.run_ofFiles (.spawn programs.montage)
    (toolbox.start · (composing programs reference generated output [])) said
  rw [hfiles] at hcomparing hcomposing
  cases hfirst : toolbox.start machine.files (comparing programs reference generated) with
  | error cause =>
    rw [hfirst] at hcomparing
    exact congrArg Prod.fst (run_bind_of_error hcomparing _)
  | ok _ =>
    rw [hfirst] at hcomparing
    refine (congrArg Prod.fst (run_bind_of_ok hcomparing _)).trans ?_
    cases hsecond : toolbox.start machine.files (composing programs reference generated output [])
      with
    | error cause =>
      rw [hsecond] at hcomposing
      exact congrArg Prod.fst (run_bind_of_error hcomposing _)
    | ok _ =>
      rw [hsecond] at hcomposing
      refine (congrArg Prod.fst (run_bind_of_ok hcomposing _)).trans ?_
      rw [run_bind_of_ok (Action.run_files said), hfiles]
      rfl

end Tools

/-- Whatever programs there are and whatever they do: a pair is measured, drawn
    and compared as text as the program that was launched for it answers, by the
    code it exited with. A program that a signal killed has no code; and that the
    second of two programs that draw succeeded means that it exited with 0. -/
theorem tools_answer (toolbox : Tool.Toolbox) (programs : Programs)
    (reference generated output : Path) (machine : Machine μ) :
    Measures programs.compare
      (toolbox.launched machine.files (measuring programs reference generated))
      (((externalTools toolbox programs).measure reference generated).run.run machine).1 ∧
    TextDiffer.Differs programs.diff
      (toolbox.launched machine.files (TextDiffer.diffing programs.diff reference generated))
      ((TextDiffer.external toolbox programs.diff reference generated).run.run machine).1 ∧
    Renders programs
      (toolbox.start machine.files (comparing programs reference generated))
      (toolbox.start machine.files (composing programs reference generated output []))
      (drawn toolbox programs reference generated output machine.files).1
      (drawn toolbox programs reference generated output machine.files).2
      (((externalTools toolbox programs).renderDiff reference generated output).run.run machine).1 ∧
    ∀ status : Tool.Status,
      (∀ signal, status.signal? = some signal → status.code? = none) ∧
      (status.Ended → (status.success = true ↔ status.code? = some 0) ∧
        ∀ code, status.code? = some code ↔ code < 256 ∧ status = .exited code) := by
  refine ⟨?_, ?_, ?_, fun status => ⟨fun _ => Tool.Status.code?_of_signal?, fun hended =>
    ⟨hended.success_iff, hended.code?_eq_some_iff⟩⟩⟩
  · rw [result_measure]
    exact measures_answerOf _ _
  · rw [TextDiffer.result_external]
    exact TextDiffer.differs_answerOf _ _
  · rw [result_renderDiff]
    exact renders_answerOfBoth _ _ _ _ _

/-! ## Programs that crash -/

namespace Crashing

/-- Each program prints a metric of zero with blanks around it and crashes; its
    memory is saved. -/
def toolbox : Tool.Toolbox where
  start _ _ := .ok ()
  perform files _ := (⟨⟨139⟩, Text.encode " 0 (0)\n".toList, []⟩, files)

def machine : Machine Unit := ⟨⟨[], []⟩, (), [], none⟩

/-- None of it passes: each operation fails and names its program, the one that
    draws the second. -/
theorem crash_is_no_answer :
    Tool.Status.Ended ⟨139⟩ ∧ (Tool.Status.mk 139).signal? = some 11 ∧
    (((externalTools toolbox {}).measure ⟨"a"⟩ ⟨"b"⟩).run.run machine).1
      = .error (.toolFailed "compare" ⟨139⟩ "0 (0)") ∧
    ((TextDiffer.external toolbox "diff" ⟨"a"⟩ ⟨"b"⟩).run.run machine).1
      = .error (.toolFailed "diff" ⟨139⟩ "0 (0)") ∧
    (((externalTools toolbox {}).renderDiff ⟨"a"⟩ ⟨"b"⟩ ⟨"c"⟩).run.run machine).1
      = .error (.toolFailed "montage" ⟨139⟩ "0 (0)") := by
  obtain ⟨hmeasures, hdiffers, hrenders, hstatus⟩ :=
    tools_answer toolbox {} ⟨"a"⟩ ⟨"b"⟩ ⟨"c"⟩ machine
  have hended : Tool.Status.Ended ⟨139⟩ := .killed 11 true (by decide) (by decide)
  have hsignal : (Tool.Status.mk 139).signal? = some 11 := by decide
  have hcode := (hstatus ⟨139⟩).1 11 hsignal
  have hsuccess : (Tool.Status.mk 139).success = false := by
    rw [← Bool.not_eq_true, ((hstatus ⟨139⟩).2 hended).1, hcode]
    decide
  have hfails {output errors : List UInt8} : Tool.Finished.Fails ⟨⟨139⟩, output, errors⟩ := by
    unfold Tool.Finished.Fails Tool.Finished.SaysAlike Tool.Finished.SaysUnlike
    rw [hcode]
    decide
  refine ⟨hended, hsignal, ?_, ?_, ?_⟩
  · exact (hmeasures.error_iff _).2 (.inl (.inr ⟨_, rfl, hfails, by decide +kernel⟩))
  · exact (hdiffers.error_iff _).2 (.inr ⟨_, rfl, hfails, by decide +kernel⟩)
  · exact (hrenders.error_iff _).2 (.inr (.inr (.inl ⟨rfl, rfl, hsuccess, by decide +kernel⟩)))

end Crashing

end Backend

end RenderCheck
