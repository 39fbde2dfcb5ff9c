import RenderCheck.CommandLine.Run
import RenderCheck.Proofs.Config
import RenderCheck.Proofs.Run.Beside
import RenderCheck.Proofs.Text.Letters

/-! # The command line and its run

    A command that can be read checks its directories, builds its configuration
    and does a run. It says things to the log all along, and nothing of what it
    says, or of how much of that is to be seen, comes back to it: its exit code,
    its output and the files it leaves are those of the run alone.

    * **Log settings**: a filter is always there, unless the one from the
      environment cannot be read.
    * **Directories** are checked twice, by the command and by the run, and the
      same are refused (`directoryFault?_eq_none_iff`).
    * **Steps** that only say things (`Step.Quiet`).
    * **Commands**: `Arguments.effect` says what a command does by its run alone,
      and `run_faithful` what it comes to. -/

namespace RenderCheck.CommandLine

variable {α : Type}

/-! ## Log settings -/

/-- Log directives that are not set, blank, or a filter. -/
def Readable (setting : Option String) : Prop :=
  ∀ text, setting = some text →
    Text.trim text.toList = [] ∨ ∃ filter, Trace.Filter.parse text = .ok filter

/-- A word that begins with a small letter, and has neither blanks around it nor
    what could end a target, is a directive. -/
theorem parse_word {first : Char} {rest : List Char}
    (hfirst : 0x61 ≤ first.toNat ∧ first.toNat < 0x7B)
    (htrim : Text.trim (first :: rest) = first :: rest)
    (hplain : ((first :: rest).any fun c => c = '=' || c = '[') = false) :
    Trace.Directive.parse (first :: rest) = .ok (Trace.Directive.ofWord (first :: rest)) := by
  have hbegins : Trace.Directive.isFirst first = true := by
    unfold Trace.Directive.isFirst
    rw [Text.isAlphanumeric_of_lower hfirst.1 hfirst.2, Bool.or_true]
  have hend : (first :: rest).findIdx (fun c => c = '=' || c = '[') = (first :: rest).length :=
    List.findIdx_eq_length_of_false fun c hmem =>
      Bool.eq_false_iff.2 (List.any_eq_false.1 hplain c hmem)
  -- nor is it what is said of a span
  have hbracket : first ≠ '[' := by
    rintro rfl
    exact absurd hfirst (by decide)
  unfold Trace.Directive.parse
  rw [htrim]
  dsimp only
  split
  · next h => cases h
  · next h =>
    cases h
    exact absurd rfl hbracket
  · next h =>
    cases h
    rw [hbegins, hend, List.drop_length]
    rfl

/-- A verbosity stands for a filter. -/
theorem exists_filter_of_verbosity (settings : Trace.Settings) :
    ∃ filter, Trace.Filter.parse settings.verbosityWord = .ok filter := by
  have hword {text : String} {first : Char} {rest : List Char} (htext : text.toList = first :: rest)
      (hsplit : (Trace.Filter.splitCommas text.toList).filter (· ≠ []) = [text.toList])
      (hfirst : 0x61 ≤ first.toNat ∧ first.toNat < 0x7B)
      (htrim : Text.trim (first :: rest) = first :: rest)
      (hplain : ((first :: rest).any fun c => c = '=' || c = '[') = false) :
      ∃ filter, Trace.Filter.parse text = .ok filter := by
    unfold Trace.Filter.parse
    rw [hsplit, htext, List.mapM_cons, parse_word hfirst htrim hplain]
    exact ⟨_, rfl⟩
  -- the name of a level for each verbosity
  unfold Trace.Settings.verbosityWord
  split
  all_goals exact hword rfl (by decide +kernel) (by decide) (by decide +kernel) (by decide)

/-- There is a filter for directives that can be read. -/
theorem Readable.exists_filter {setting : Option String} (h : Readable setting) (a : Arguments) :
    ∃ filter, (a.logSettings setting).filter = .ok filter := by
  have hplain := exists_filter_of_verbosity { verbosity := a.verbosity, format := a.logFormat }
  unfold Arguments.logSettings Trace.Settings.withVariable
  cases setting with
  | none => exact hplain
  | some text =>
    dsimp only
    split
    · exact hplain
    · next hblank => exact (h text rfl).resolve_left hblank

/-! ## Directories -/

/-- The reference path is a directory, and the path for diff images, if there is
    one, is not a file. -/
def Arguments.DirectoriesUsable (a : Arguments) (files : FileTree) : Prop :=
  files.isDir a.refDir = true ∧ ∀ diffDir, a.diffDir = some diffDir → files.isFile diffDir = false

/-- A directory is there. -/
theorem pathExists_of_isDir {files : FileTree} {path : Path} (h : files.isDir path = true) :
    files.pathExists path = true := by
  unfold FileTree.isDir at h
  unfold FileTree.pathExists
  cases hnode : files.inspect true path with
  | error error =>
    rw [hnode] at h
    cases h
  | ok node => rfl

/-- A command finds no fault with directories that can be used. -/
theorem directoryFault?_eq_none_iff (a : Arguments) (files : FileTree) :
    a.directoryFault? files = none ↔ a.DirectoriesUsable files := by
  unfold Arguments.directoryFault? Arguments.DirectoriesUsable
  cases hdir : files.isDir a.refDir with
  | false =>
    -- it is told apart whether there is something else or nothing at all
    cases files.pathExists a.refDir <;> simp
  | true =>
    rw [pathExists_of_isDir hdir]
    cases a.diffDir with
    | none => simp
    | some diffDir => cases hfile : files.isFile diffDir <;> simp [hfile]

/-- The command lets directories through if they can be used. -/
theorem checkDirectories_eq_ok_iff (a : Arguments) (files : FileTree) :
    a.checkDirectories files = .ok () ↔ a.DirectoriesUsable files := by
  rw [← directoryFault?_eq_none_iff]
  unfold Arguments.checkDirectories
  cases a.directoryFault? files <;> simp

/-- The configuration of arguments has their directories. -/
theorem directories_of_config {a : Arguments} {config : Config} (h : a.config = .ok config) :
    config.Usable ∧ config.referenceDir = a.refDir ∧ config.diffDir = a.diffDir := by
  unfold Arguments.config at h
  cases hbuild : Config.build a.settings with
  | error error =>
    rw [hbuild] at h
    cases h
  | ok built =>
    rw [hbuild] at h
    cases h
    obtain ⟨rfl, husable⟩ := Config.build_eq_ok_iff.1 hbuild
    exact ⟨husable, rfl, rfl⟩

/-- There is a comparator for a configuration that arguments describe. -/
theorem exists_comparator (toolbox : Tool.Toolbox) {a : Arguments} {config : Config}
    (h : a.config = .ok config) :
    ∃ c : Comparator Unit, Comparator.ofConfig config toolbox = .ok c :=
  Comparator.exists_withBackend (directories_of_config h).1 toolbox _

/-- A run lets the same directories through as the command before it. -/
theorem validateDirs_eq_ok_iff {a : Arguments} {config : Config} (h : a.config = .ok config)
    (files : FileTree) :
    config.validateDirs files = .ok () ↔ a.DirectoriesUsable files := by
  obtain ⟨-, hreference, hdiff⟩ := directories_of_config h
  unfold Config.validateDirs Arguments.DirectoriesUsable
  rw [hreference, hdiff]
  cases files.isDir a.refDir with
  | false =>
    constructor
    · intro hvalid
      cases hvalid
    · rintro ⟨hdir, -⟩
      cases hdir
  | true =>
    cases a.diffDir with
    | none => exact iff_of_true rfl ⟨rfl, fun _ hsome => nomatch hsome⟩
    | some diffDir =>
      -- only the directory for diff images is left to decide it
      have husable : (true = true ∧ ∀ dir, some diffDir = some dir → files.isFile dir = false) ↔
          files.isFile diffDir = false := by simp
      rw [husable]
      dsimp only
      cases files.isFile diffDir with
      | false => exact iff_of_true rfl rfl
      | true =>
        constructor
        · intro hvalid
          cases hvalid
        · intro hfile
          cases hfile

/-! ## Steps -/

/-- The state in which a run begins: nothing is written yet. -/
def start (files : FileTree) : RunState Unit where
  machine := { files := files, memory := () }
  sink := {}

/-- States with the same files and the same report. -/
structure Near (state state' : RunState Unit) : Prop where
  files : state'.machine.files = state.machine.files
  sink : state'.sink = state.sink

theorem Near.refl (state : RunState Unit) : Near state state :=
  ⟨rfl, rfl⟩

theorem Near.trans {first second third : RunState Unit} (h : Near first second)
    (h' : Near second third) : Near first third :=
  ⟨h'.files.trans h.files, h'.sink.trans h.sink⟩

namespace Step

/-- A step that goes on with a value, and has only said things before. -/
def Quiet (step : Step α) (a : α) : Prop :=
  ∀ state, ∃ told, step.run.run state = (.ok a, told) ∧ Near state told

theorem quiet_say (level : Trace.Level) (message : String) (fields : List Trace.Field) :
    (say level message fields).Quiet () :=
  fun _ => ⟨_, rfl, rfl, rfl⟩

theorem quiet_ofExcept {result : Except Failure α} {a : α} (h : result = .ok a) :
    (ofExcept result).Quiet a := by
  subst h
  exact fun state => ⟨state, rfl, .refl state⟩

/-- From every state near a first one the step succeeds, or fails, and leaves a
    state near a last one. -/
def Comes (step : Step α) (first : RunState Unit) (succeeds : Bool) (last : RunState Unit) : Prop :=
  ∀ state, Near first state →
    (step.run.run state).1.isOk = succeeds ∧ Near last (step.run.run state).2

section Coming

variable {β : Type} {first last : RunState Unit} {succeeds : Bool} {step : Step α} {a : α}

theorem Quiet.comes (h : step.Quiet a) (first : RunState Unit) : step.Comes first true first := by
  intro state hnear
  obtain ⟨told, hrun, hsaid⟩ := h state
  rw [hrun]
  exact ⟨rfl, hnear.trans hsaid⟩

theorem comes_error {result : Except Failure α} (h : ∀ a, result ≠ .ok a) (next : α → Step β)
    (first : RunState Unit) : (ofExcept result >>= next).Comes first false first := by
  intro state hnear
  cases result with
  | error failure => exact ⟨rfl, hnear⟩
  | ok a => exact absurd rfl (h a)

/-- What comes after something quiet comes after nothing at all. -/
theorem Quiet.andThen (h : step.Quiet a) {next : α → Step β}
    (hnext : (next a).Comes first succeeds last) : (step >>= next).Comes first succeeds last := by
  intro state hnear
  obtain ⟨told, hrun, hsaid⟩ := h state
  rw [run_bind_of_ok hrun]
  exact hnext told (hnear.trans hsaid)

/-- Looking at the state shows the files of the first one. -/
theorem comes_get {next : RunState Unit → Step β}
    (hnext : ∀ state, state.machine.files = first.machine.files →
      (next state).Comes first succeeds last) :
    (get >>= next).Comes first succeeds last :=
  fun state hnear => hnext state hnear.files state hnear

end Coming

end Step

/-- A run does the same in states that are near, whatever was said. -/
theorem run_of_near {config : Config} {toolbox : Tool.Toolbox} {c : Comparator Unit}
    (hc : Comparator.ofConfig config toolbox = .ok c) {state told : RunState Unit}
    (hnear : Near state told) (hsink : state.sink.NeverFails) :
    (c.run.run.run told).1 = (c.run.run.run state).1 ∧
      Near (c.run.run.run state).2 (c.run.run.run told).2 := by
  -- both backends look at the files and not at what was said
  obtain ⟨-, hbackend, -⟩ := Comparator.ofConfig_eq_ok hc
  have hmeasures : c.backend.MeasuresByFiles :=
    hbackend ▸ Backend.backendOf_measuresByFiles config toolbox
  have hdraws : c.backend.DrawsByFiles := hbackend ▸ Backend.backendOf_drawsByFiles config toolbox
  obtain ⟨hresult, hwritten, hfiles⟩ := (Comparator.beside_self hmeasures hdraws
    (Comparator.textsByFiles_withBackend hc)).run_same hnear.files.symm hnear.sink.symm hsink
  exact ⟨hresult, hfiles, hwritten⟩

/-- Doing a run and saying what it counted comes to what the run comes to. -/
theorem comes_ofRun {config : Config} {toolbox : Tool.Toolbox} {c : Comparator Unit}
    (hc : Comparator.ofConfig config toolbox = .ok c) (message : String)
    {next : Summary → Step Unit} (hnext : ∀ summary, (next summary).Quiet ())
    (first : RunState Unit) (hsink : first.sink.NeverFails) :
    (Step.ofRun message c.run >>= next).Comes first (c.run.run.run first).1.isOk
      (c.run.run.run first).2 := by
  intro state hnear
  obtain ⟨hresult, hlast⟩ := run_of_near hc hnear hsink
  rcases hrun : c.run.run.run state with ⟨result, told⟩
  have hstep : (Step.ofRun message c.run).run.run state
      = (result.mapError (.ofError message), told) := by
    show ((c.run.run.run state).1.mapError _, (c.run.run.run state).2) = _
    rw [hrun]
  rw [hrun] at hresult hlast
  rw [← hresult]
  cases result with
  | error error =>
    rw [run_bind_of_error hstep]
    exact ⟨rfl, hlast⟩
  | ok summary =>
    rw [run_bind_of_ok hstep]
    exact (hnext summary).comes _ told hlast

/-! ## Commands -/

/-- A command whose directories cannot be used, or of whose arguments no
    configuration can be built, fails and has done nothing. -/
theorem comes_perform_of_failure (toolbox : Tool.Toolbox) {a : Arguments} {files : FileTree}
    (h : a.DirectoriesUsable files → ∀ config, a.config ≠ .ok config) :
    (perform toolbox a).Comes (start files) false (start files) := by
  unfold perform
  refine (Step.quiet_say _ _ _).andThen (Step.comes_get fun state hfiles => ?_)
  rw [hfiles]
  have hcheck := checkDirectories_eq_ok_iff a (start files).machine.files
  cases hresult : a.checkDirectories (start files).machine.files with
  | error failure =>
    refine Step.comes_error ?_ _ _
    intro _ hok
    cases hok
  | ok _ =>
    have hconfig := h (hcheck.1 hresult)
    exact (Step.quiet_ofExcept rfl).andThen (Step.comes_error hconfig _ _)

/-- Any other command comes to what its run comes to. -/
theorem comes_perform_of_run (toolbox : Tool.Toolbox) {a : Arguments} {files : FileTree}
    (hdirectories : a.DirectoriesUsable files) {config : Config} (hconfig : a.config = .ok config)
    {c : Comparator Unit} (hc : Comparator.ofConfig config toolbox = .ok c) :
    (perform toolbox a).Comes (start files) (c.run.run.run (start files)).1.isOk
      (c.run.run.run (start files)).2 := by
  have hcomparator : comparatorOf toolbox config = .ok c := by
    unfold comparatorOf
    rw [hc]
    rfl
  have hrun := comes_ofRun hc "Comparison aborted"
    (fun summary => Step.quiet_say .info (closing summary) []) (start files) ⟨rfl, rfl⟩
  have hcompared : (do
      let c ← Step.ofExcept (comparatorOf toolbox config)
      let summary ← Step.ofRun "Comparison aborted" c.run
      Step.say .info (closing summary)).Comes (start files) (c.run.run.run (start files)).1.isOk
        (c.run.run.run (start files)).2 := (Step.quiet_ofExcept hcomparator).andThen hrun
  unfold perform
  refine (Step.quiet_say _ _ _).andThen (Step.comes_get fun state hfiles => ?_)
  rw [hfiles]
  have hcheck := (checkDirectories_eq_ok_iff a (start files).machine.files).2 hdirectories
  -- nothing fails up to the run, and there may be a warning before it
  refine (Step.quiet_ofExcept hcheck).andThen ((Step.quiet_ofExcept hconfig).andThen ?_)
  refine (Step.quiet_say _ _ _).andThen ((Step.quiet_say _ _ _).andThen ?_)
  dsimp only
  split
  · exact (Step.quiet_say _ _ _).andThen hcompared
  · exact hcompared

/-- A command with directives that can be read does what its arguments ask for. -/
theorem run_eq_performLogged (toolbox : Tool.Toolbox) {arguments : List String} {a : Arguments}
    (hparse : Arguments.parse arguments = .ok a) {setting : Option String}
    (hsetting : Readable setting) (files : FileTree) :
    ∃ filter, run toolbox setting arguments files = performLogged toolbox a filter files := by
  obtain ⟨filter, hfilter⟩ := hsetting.exists_filter a
  refine ⟨filter, ?_⟩
  unfold run
  rw [hparse]
  dsimp only
  rw [hfilter]

/-- The exit code, the output and the files of what has been done. -/
theorem performLogged_of_comes {toolbox : Tool.Toolbox} {a : Arguments} {files : FileTree}
    {succeeds : Bool} {last : RunState Unit}
    (h : (perform toolbox a).Comes (start files) succeeds last) (filter : Trace.Filter) :
    (performLogged toolbox a filter files).code = (if succeeds then 0 else 1) ∧
      (performLogged toolbox a filter files).output = last.sink.written ∧
      (performLogged toolbox a filter files).files = last.machine.files := by
  obtain ⟨hresult, hlast⟩ := h (start files) (.refl _)
  rcases hrun : (perform toolbox a).run.run (start files) with ⟨result, state⟩
  have hbegun : (perform toolbox a).run.run
      { machine := { files := files, memory := () }, sink := {} } = (result, state) := hrun
  unfold performLogged
  rw [hbegun]
  rw [hrun] at hresult hlast
  subst hresult
  cases result with
  | error failure => exact ⟨rfl, by rw [← hlast.sink], hlast.files⟩
  | ok _ => exact ⟨rfl, by rw [← hlast.sink], hlast.files⟩

section Faithful

variable (toolbox : Tool.Toolbox) {arguments : List String} {a : Arguments}
  (hparse : Arguments.parse arguments = .ok a) {setting : Option String}
  (hsetting : Readable setting) (files : FileTree)

include hparse hsetting

/-- A command that fails before its run. -/
theorem run_of_failure (h : a.DirectoriesUsable files → ∀ config, a.config ≠ .ok config) :
    (run toolbox setting arguments files).code = 1 ∧
      (run toolbox setting arguments files).output = [] ∧
      (run toolbox setting arguments files).files = files := by
  obtain ⟨filter, hrun⟩ := run_eq_performLogged toolbox hparse hsetting files
  rw [hrun]
  exact performLogged_of_comes (comes_perform_of_failure toolbox h) filter

/-- A command that comes to its run. -/
theorem run_of_run (hdirectories : a.DirectoriesUsable files) {config : Config}
    (hconfig : a.config = .ok config) {c : Comparator Unit}
    (hc : Comparator.ofConfig config toolbox = .ok c) :
    let ran := c.run.run.run (start files)
    (run toolbox setting arguments files).code = (if ran.1.isOk then 0 else 1) ∧
      (run toolbox setting arguments files).output = ran.2.sink.written ∧
      (run toolbox setting arguments files).files = ran.2.machine.files := by
  obtain ⟨filter, hrun⟩ := run_eq_performLogged toolbox hparse hsetting files
  rw [hrun]
  exact performLogged_of_comes (comes_perform_of_run toolbox hdirectories hconfig hc) filter

/-- A command either comes to its run or fails before it. -/
theorem run_or_failure :
    (∃ config c, a.DirectoriesUsable files ∧ a.config = .ok config ∧
      Comparator.ofConfig config toolbox = .ok c ∧
      let ran := c.run.run.run (start files)
      (run toolbox setting arguments files).code = (if ran.1.isOk then 0 else 1) ∧
        (run toolbox setting arguments files).output = ran.2.sink.written ∧
        (run toolbox setting arguments files).files = ran.2.machine.files) ∨
    (a.DirectoriesUsable files → ∀ config, a.config ≠ .ok config) ∧
      (run toolbox setting arguments files).code = 1 ∧
      (run toolbox setting arguments files).output = [] ∧
      (run toolbox setting arguments files).files = files := by
  by_cases hstarts : a.DirectoriesUsable files ∧ ∃ config, a.config = .ok config
  · obtain ⟨hdirectories, config, hconfig⟩ := hstarts
    obtain ⟨c, hc⟩ := exists_comparator toolbox hconfig
    exact .inl ⟨config, c, hdirectories, hconfig, hc,
      run_of_run toolbox hparse hsetting files hdirectories hconfig hc⟩
  · have hfails : a.DirectoriesUsable files → ∀ config, a.config ≠ .ok config :=
      fun hdirectories config hconfig => hstarts ⟨hdirectories, config, hconfig⟩
    exact .inr ⟨hfails, run_of_failure toolbox hparse hsetting files hfails⟩

/-- A run that succeeds, whatever it counts, gives the exit code 0. -/
theorem code_of_success (hdirectories : a.DirectoriesUsable files) {config : Config}
    (hconfig : a.config = .ok config) {c : Comparator Unit}
    (hc : Comparator.ofConfig config toolbox = .ok c) {summary : Summary}
    (hresult : (c.run.run.run (start files)).1 = .ok summary) :
    (run toolbox setting arguments files).code = 0 := by
  obtain ⟨hcode, -⟩ := run_of_run toolbox hparse hsetting files hdirectories hconfig hc
  rw [hresult] at hcode
  exact hcode

/-- All else gives 1: directories that are refused, a configuration that cannot
    be built, and a run that fails. -/
theorem exists_success_or_code_eq_one :
    (a.DirectoriesUsable files ∧ ∃ config c summary, a.config = .ok config ∧
      Comparator.ofConfig config toolbox = .ok c ∧
      (c.run.run.run (start files)).1 = .ok summary) ∨
    (run toolbox setting arguments files).code = 1 := by
  rcases run_or_failure toolbox hparse hsetting files with
    ⟨config, c, hdirectories, hconfig, hc, hcode, -⟩ | ⟨-, hcode, -⟩
  · cases hresult : (c.run.run.run (start files)).1 with
    | ok summary => exact .inl ⟨hdirectories, config, c, summary, hconfig, hc, hresult⟩
    | error error =>
      right
      rw [hresult] at hcode
      exact hcode
  · exact .inr hcode

/-- What is said otherwise and not done otherwise changes only the log. -/
theorem run_of_same_but_log {arguments' : List String} {a' : Arguments}
    (hparse' : Arguments.parse arguments' = .ok a') {setting' : Option String}
    (hsetting' : Readable setting')
    (hsame : a' = { a with verbosity := a'.verbosity, logFormat := a'.logFormat }) :
    (run toolbox setting' arguments' files).code = (run toolbox setting arguments files).code ∧
      (run toolbox setting' arguments' files).output = (run toolbox setting arguments files).output ∧
      (run toolbox setting' arguments' files).files = (run toolbox setting arguments files).files := by
  have hconfig' : a'.config = a.config := by
    rw [hsame]
    rfl
  have hdirectories' : a'.DirectoriesUsable files ↔ a.DirectoriesUsable files := by
    rw [hsame]
    rfl
  rcases run_or_failure toolbox hparse hsetting files with
    ⟨config, c, hdirectories, hconfig, hc, hcode, houtput, hleft⟩ | ⟨hfails, hcode, houtput, hleft⟩
  · obtain ⟨hcode', houtput', hleft'⟩ := run_of_run toolbox hparse' hsetting' files
      (hdirectories'.2 hdirectories) (hconfig'.trans hconfig) hc
    exact ⟨hcode'.trans hcode.symm, houtput'.trans houtput.symm, hleft'.trans hleft.symm⟩
  · have hfails' : a'.DirectoriesUsable files → ∀ config, a'.config ≠ .ok config := by
      rw [hdirectories', hconfig']
      exact hfails
    obtain ⟨hcode', houtput', hleft'⟩ := run_of_failure toolbox hparse' hsetting' files hfails'
    exact ⟨hcode'.trans hcode.symm, houtput'.trans houtput.symm, hleft'.trans hleft.symm⟩

end Faithful

/-- A command that can be read, with log directives that can be, does what its
    run does. It exits with 0 if its directories can be used, its configuration
    can be built and the run succeeds, whatever that counts, and else with 1. It
    writes nothing if there is no run, and else what the run writes, also before
    an error; and the run lets the same directories through. The verbosity, the
    log format and the directives change neither the exit code nor what is
    written. -/
theorem run_faithful (toolbox : Tool.Toolbox) {arguments : List String} {a : Arguments}
    (hparse : Arguments.parse arguments = .ok a) {setting : Option String}
    (hsetting : Readable setting) (files : FileTree) :
    let ending := run toolbox setting arguments files
    (ending.code = 0 ↔ a.DirectoriesUsable files ∧ ∃ config c summary, a.config = .ok config ∧
      Comparator.ofConfig config toolbox = .ok c ∧ (c.run.run.run (start files)).1 = .ok summary) ∧
    (ending.code ≠ 0 → ending.code = 1) ∧
    ((a.DirectoriesUsable files → ∀ config, a.config ≠ .ok config) →
      ending.output = [] ∧ ending.files = files) ∧
    (∀ config, a.config = .ok config → ∃ c, Comparator.ofConfig config toolbox = .ok c ∧
      (a.DirectoriesUsable files →
        ending.output = (c.run.run.run (start files)).2.sink.written ∧
          ending.files = (c.run.run.run (start files)).2.machine.files) ∧
      (a.checkDirectories files = .ok () ↔ config.validateDirs files = .ok ())) ∧
    ∀ arguments' a' setting', Arguments.parse arguments' = .ok a' → Readable setting' →
      a' = { a with verbosity := a'.verbosity, logFormat := a'.logFormat } →
      (run toolbox setting' arguments' files).code = ending.code ∧
        (run toolbox setting' arguments' files).output = ending.output ∧
        (run toolbox setting' arguments' files).files = ending.files := by
  intro ending
  have hcodes := exists_success_or_code_eq_one toolbox hparse hsetting files
  refine ⟨⟨fun hzero => ?_, ?_⟩, fun hnonzero => ?_, fun hfails => ?_, fun config hconfig => ?_, ?_⟩
  -- the exit code
  · have hnot : (run toolbox setting arguments files).code ≠ 1 := by
      intro hone
      rw [hone] at hzero
      cases hzero
    exact hcodes.resolve_right hnot
  · rintro ⟨hdirectories, config, c, summary, hconfig, hc, hresult⟩
    exact code_of_success toolbox hparse hsetting files hdirectories hconfig hc hresult
  · refine hcodes.resolve_left ?_
    rintro ⟨hdirectories, config, c, summary, hconfig, hc, hresult⟩
    exact hnonzero (code_of_success toolbox hparse hsetting files hdirectories hconfig hc hresult)
  -- what is written without a run, and with one
  · exact (run_of_failure toolbox hparse hsetting files hfails).2
  · obtain ⟨c, hc⟩ := exists_comparator toolbox hconfig
    refine ⟨c, hc, fun hdirectories => ?_, ?_⟩
    · exact (run_of_run toolbox hparse hsetting files hdirectories hconfig hc).2
    · exact (checkDirectories_eq_ok_iff a files).trans (validateDirs_eq_ok_iff hconfig files).symm
  -- what only the log depends on
  · intro arguments' a' setting' hparse' hsetting' hsame
    exact run_of_same_but_log toolbox hparse hsetting files hparse' hsetting' hsame

/-! ## A command over one file -/

namespace LoneFile

/-- There is a file in one tree and no other tree. -/
def files : FileTree :=
  ⟨[], [(["ref"], .directory), (["ref", "a"], .file .empty false)]⟩

/-- No program is there to be run. -/
def toolbox : Tool.Toolbox where
  start _ _ := .error .notFound
  perform files _ := (⟨.exited 0, [], []⟩, files)

/-- The two trees, and the backend that needs no program. -/
def plain : Arguments :=
  { refDir := ⟨"ref"⟩, renderDir := ⟨"out"⟩, backend := .native }

/-- The configuration of these arguments. -/
def config : Config :=
  { referenceDir := ⟨"ref"⟩, renderDir := ⟨"out"⟩, backend := .native }

/-- The comparator of that configuration. -/
def comparator : Comparator Unit :=
  ⟨config, .native, ⟨[.anyText, .literal '.', .literal 'p', .literal 'n', .literal 'g']⟩, none⟩

/-- The file is reported as missing, which is no failure, and nothing else is
    written when more is said. -/
theorem run_reports_and_succeeds :
    Arguments.parse ["ref", "out", "-b", "native"] = .ok plain ∧
    Arguments.parse ["-vv", "ref", "out", "--log-format=compact", "-bnative"]
      = .ok { plain with verbosity := 2, logFormat := .compact } ∧
    Readable none ∧ Readable (some " ") ∧
    let ending := run toolbox none ["ref", "out", "-b", "native"] files
    let ending' := run toolbox (some " ")
      ["-vv", "ref", "out", "--log-format=compact", "-bnative"] files
    ending.code = 0 ∧ ending.output = Text.encode "File out/a does not exist\n".toList ∧
      ending'.code = 0 ∧ ending'.output = Text.encode "File out/a does not exist\n".toList := by
  have hplain : Arguments.parse ["ref", "out", "-b", "native"] = .ok plain := by decide +kernel
  have hloud : Arguments.parse ["-vv", "ref", "out", "--log-format=compact", "-bnative"]
      = .ok { plain with verbosity := 2, logFormat := .compact } := by decide +kernel
  have hnone : Readable none := fun _ hset => nomatch hset
  have hblank : Readable (some " ") := by
    rintro _ ⟨⟩
    exact .inl (by decide +kernel)
  have hconfig : plain.config = .ok config := by decide +kernel
  have hcomparator : Comparator.ofConfig config toolbox = .ok comparator := by
    have hpattern : Glob.Pattern.parse config.imagePattern = .ok comparator.imagePattern := by
      decide +kernel
    unfold Comparator.ofConfig Comparator.withBackend
    rw [Config.readPattern_eq_ok_iff.2 hpattern]
    rfl
  have hdirectories : plain.DirectoriesUsable files := ⟨by decide +kernel, fun _ hset => nomatch hset⟩
  have hran : (comparator.run.run.run (start files)).1 = .ok { filesChecked := 1, missing := 1 } := by
    decide +kernel
  have hwritten : (comparator.run.run.run (start files)).2.sink.written
      = Text.encode "File out/a does not exist\n".toList := by decide +kernel
  -- one run is computed; what the louder one does follows from it
  obtain ⟨hcode, -, -, hrun, hlog⟩ := run_faithful toolbox hplain hnone files
  have hzero := hcode.2 ⟨hdirectories, config, comparator, _, hconfig, hcomparator, hran⟩
  obtain ⟨c, hc, houtput, -⟩ := hrun config hconfig
  cases hcomparator.symm.trans hc
  obtain ⟨hcode', houtput', -⟩ := hlog _ _ _ hloud hblank rfl
  refine ⟨hplain, hloud, hnone, hblank, hzero, ?_, hcode'.trans hzero, ?_⟩
  · rw [(houtput hdirectories).1, hwritten]
  · rw [houtput', (houtput hdirectories).1, hwritten]

end LoneFile

end RenderCheck.CommandLine
