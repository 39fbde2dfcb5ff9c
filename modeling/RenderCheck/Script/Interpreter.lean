import RenderCheck.Script.Builtin
import RenderCheck.Script.Parser
import RenderCheck.Script.LineUtility

/-! # Running tool scripts

    A toolbox whose programs are scripts in the file tree: a file that can be
    run and begins by naming an interpreter. They are started by path; only
    within a script there are programs that are found by name.

    Filling in a word can run commands, and running a command fills in words:
    both are done by one family of functions, which spends fuel on every step
    into a part and on every round of a loop. -/

namespace RenderCheck.Script

namespace Shell

/-! ## Shells within shells -/

/-- The shell that a part of a script gets for itself. -/
def inner (s : Shell) : Shell :=
  { s with loops := 0, pending := [], traps := s.traps.filter (·.2 = "") }

/-- What is left when a shell within a shell is done: its files and outputs,
    and its exit code. A signal to the script ends both. -/
def resume (s done : Shell) : Shell :=
  let kept := { s with
    files := { done.files with workingDir := s.files.workingDir }
    inputs := done.inputs
    outputs := done.outputs }
  match done.flow with
  | .ended status =>
    match status.code? with
    | some code => kept.withStatus code
    | none => kept.withFlow done.flow
  | _ => kept.withStatus done.status

/-- What is said when a signal has ended a program: nothing at an interrupt
    or a broken pipe. -/
def signalWords : List (Nat × String) :=
  [(1, "Hangup"), (3, "Quit"), (4, "Illegal instruction"), (5, "Trace/breakpoint trap"),
   (6, "Aborted"), (7, "Bus error"), (8, "Floating point exception"), (9, "Killed"),
   (10, "User defined signal 1"), (11, "Segmentation fault"), (12, "User defined signal 2"),
   (14, "Alarm clock"), (15, "Terminated"), (16, "Stack fault"), (24, "CPU time limit exceeded"),
   (25, "File size limit exceeded"), (26, "Virtual timer expired"),
   (27, "Profiling timer expired"), (29, "I/O possible"), (30, "Power failure"),
   (31, "Bad system call")]

/-- What is left when another program is done, which a signal may have
    ended. -/
def resumeProgram (s done : Shell) : Shell :=
  match done.flow with
  | .ended status =>
    match status.signal? with
    | some signal =>
      let s := s.resume { done with flow := .onward, status := 128 + signal }
      match signalWords.lookup signal with
      | some words => s.writeText 2 (words ++ "\n")
      | none => s
    | none => s.resume done
  | _ => s.resume done

/-- A script ends with an error unless its commands are tested. -/
def checkError (s : Shell) (tested : Bool) : Shell :=
  if s.hasOption 'e' && !tested && s.status ≠ 0 && s.goesOn then s.exit s.status else s

/-- The flow behind a function. -/
def behindFunction (s outer : Shell) : Shell :=
  let restored := match s.scopes with
    | scope :: scopes =>
      scope.foldl (fun (s : Shell) (name, binding) => s.bind name binding)
        { s with scopes := scopes }
    | [] => s
  let restored := { restored with arguments := outer.arguments, loops := outer.loops }
  if restored.flow = .returning then restored.withFlow .onward else restored

/-- Whether a loop goes on behind a round, and the shell. -/
def behindRound (s : Shell) : Bool × Shell :=
  match s.flow with
  | .onward => (true, s)
  | .leaving loops => (false, s.withFlow (if 1 < loops then .leaving (loops - 1) else .onward))
  | .renewing loops =>
    if 1 < loops then (false, s.withFlow (.renewing (loops - 1))) else (true, s.withFlow .onward)
  | _ => (false, s)

/-- Prints a command before it is run, if that is asked for. -/
def trace (s : Shell) (channels : List (Nat × Channel)) (words : List String) : Shell :=
  if s.hasOption 'x' then
    let sign := (s.binding "PS4").value.getD "+ "
    let traced := { s with channels := channels }.writeText 2
      (sign ++ " ".intercalate words ++ "\n")
    { traced with channels := s.channels }
  else s

/-- The directories of programs that are found by name. -/
def programDirectories : List String := ["/bin/", "/usr/bin/"]

/-- The name of a program given by its path. -/
def programName (command : String) : String :=
  match programDirectories.find? fun directory => command.startsWith directory with
  | some directory => String.ofList (command.toList.drop directory.length)
  | none => command

/-- The commands of the shell that are programs too. -/
def builtinPrograms : List String :=
  ["echo", "printf", "true", "false", "test", "[", "pwd", "kill"]

/-- Says what a command is. -/
def describe (s : Shell) (arguments : List String) : Shell :=
  arguments.foldl (fun s name =>
    if (s.functions.lookup name).isSome || builtins.contains name then
      s.writeText 1 (name ++ "\n")
    else if (s.runProgramByName? name []).isSome then s.writeText 1 ("/usr/bin/" ++ name ++ "\n")
    else if name.toList.contains '/' && s.files.isFile (toPath name) then
      s.writeText 1 (name ++ "\n")
    else s.withStatus 127) (s.withStatus 0)

/-- Says in words what a command is. -/
def describeInWords (s : Shell) (arguments : List String) : Shell :=
  arguments.foldl (fun s name =>
    if Token.keywords.contains name then s.writeText 1 (name ++ " is a shell keyword\n")
    else if (s.functions.lookup name).isSome then
      s.writeText 1 (name ++ " is a shell function\n")
    else if specialBuiltins.contains name then
      s.writeText 1 (name ++ " is a special shell builtin\n")
    else if builtins.contains name then s.writeText 1 (name ++ " is a shell builtin\n")
    else if (s.runProgramByName? name []).isSome then
      s.writeText 1 (name ++ " is /usr/bin/" ++ name ++ "\n")
    else (s.writeText 1 (name ++ ": not found\n")).withStatus 127) (s.withStatus 0)

/-- The use of a parameter asks for the other word that is given with it. -/
def needsArgument (use : Use) (value : Option String) : Bool :=
  let missing (emptyToo : Bool) : Bool := value.isNone || (emptyToo && value = some "")
  match use with
  | .orElse emptyToo | .orAssign emptyToo | .orFail emptyToo => missing emptyToo
  | .ifSet emptyToo => !missing emptyToo
  | .withoutFront _ | .withoutEnd _ => true
  | _ => false

/-- The parts of a word that a value becomes. -/
def segmentsOf (text : String) (quoted : Bool) : List Segment :=
  if quoted then [.whole (glyphs text true)] else [.loose text]

/-- The parts of a word that the arguments become. -/
def segmentsOfArguments (s : Shell) (name : String) (quoted : Bool) : List Segment :=
  if name = "*" && quoted then [.whole (glyphs (s.joint.intercalate s.arguments) true)]
  else
    (s.arguments.map fun argument =>
      if quoted then Segment.whole (glyphs argument true) else .loose argument).intersperse .gap

mutual

/-- Fills in the pieces of a word. Text that is not quoted is cut where it
    stands in for a value. -/
def fillPieces : (fuel : Nat) → Shell → (inValue : Bool) → Word → Shell × List Segment
  | 0, s, _, _ => (s, [])
  | _, s, _, [] => (s, [])
  | fuel + 1, s, inValue, piece :: others =>
    if !s.goesOn then (s, [])
    else
      let (s, first) := fillPiece fuel s inValue piece
      let (s, rest) := fillPieces fuel s inValue others
      (s, first ++ rest)

/-- Fills in a piece of a word. -/
def fillPiece : (fuel : Nat) → Shell → (inValue : Bool) → Piece → Shell × List Segment
  | 0, s, _, _ => (s, [])
  | fuel + 1, s, inValue, piece =>
    match piece with
    | .literal text quoted =>
      (s, [if quoted || !inValue then .whole (glyphs text quoted) else .loose text])
    | .output command quoted =>
      let (started, number) := s.inner.addOutput
      let done := finish fuel
        (execute fuel false command (started.withChannel 1 (some (.output number))))
      let after := s.resume done
      let printed := ((after.collected number).reverse.dropWhile (· = 10)).reverse
      let s := { after with
        status := s.status, innerStatus := after.status,
        outputs := after.outputs.setIfInBounds number .empty }
      (s, segmentsOf (ofBytes (printed.filter (· ≠ 0))) quoted)
    | .arithmetic expression quoted =>
      let (s, text) := fillWhole fuel s expression
      let known := s.bindings.filterMap fun (name, binding) => binding.value.map (name, ·)
      match Arithmetic.evaluate text known with
      | .ok (value, changed) =>
        let assigned := (changed.take (changed.length - known.length)).reverse
        let s := assigned.foldl (fun s (name, value) => s.assignChecked name value) s
        (s, segmentsOf (toString value) quoted)
      | .error failure => (s.abort (failure.message text), [])
    | .parameter name use argument quoted =>
      let value := s.value? name
      let own : List Segment :=
        if name = "@" || name = "*" then s.segmentsOfArguments name quoted
        else segmentsOf (value.getD "") quoted
      if needsArgument use value then
        let (filled, other) := fillPieces fuel s (!quoted) argument
        let text := textOf (joinSegments s.joint other)
        if !filled.goesOn then (filled, [])
        else
          match use with
          | .orAssign _ =>
            if isName name then (filled.assignChecked name text, segmentsOf text quoted)
            else (filled.abort (name ++ ": bad variable name"), [])
          | .orFail emptyToo =>
            let complaint :=
              if argument.isEmpty then
                "parameter not set" ++ if emptyToo then " or null" else ""
              else text
            (filled.abort (name ++ ": " ++ complaint), [])
          | .withoutFront longest =>
            let pattern := patternOf (joinSegments s.joint other)
            (filled, segmentsOf
              (String.ofList (withoutFront longest pattern (value.getD "").toList)) quoted)
          | .withoutEnd longest =>
            let pattern := patternOf (joinSegments s.joint other)
            (filled, segmentsOf
              (String.ofList (withoutEnd longest pattern (value.getD "").toList)) quoted)
          | _ => (filled, other)
      else
        match use with
        | .malformed => (s.abort "Bad substitution", [])
        | .length => (s, segmentsOf (toString (value.getD "").length) quoted)
        | .ifSet _ => (s, if quoted then [.whole []] else [])
        | .plain =>
          if value.isNone && s.hasOption 'u' && name ≠ "@" && name ≠ "*" then
            (s.abort (name ++ ": parameter not set"), [])
          else (s, own)
        | _ => (s, own)

/-- The text of a word that stays one. -/
def fillWhole : (fuel : Nat) → Shell → Word → Shell × String
  | 0, s, _ => (s, "")
  | fuel + 1, s, word =>
    let (s, segments) := fillPieces fuel s false word
    (s, textOf (joinSegments s.joint segments))

/-- The words that words become. -/
def fillWords : (fuel : Nat) → Shell → List Word → Shell × List String
  | 0, s, _ => (s, [])
  | _, s, [] => (s, [])
  | fuel + 1, s, word :: others =>
    let (s, segments) := fillPieces fuel s false word
    let fields := cutSegments s.separators segments
    let texts := fields.flatMap fun glyphs =>
      if s.hasOption 'f' then [textOf glyphs] else expandPaths s.files glyphs
    let (s, rest) := fillWords fuel s others
    (s, texts ++ rest)

/-- The arguments that words become; assignments among them are not cut. -/
def fillDeclarations : (fuel : Nat) → Shell → List Word → Shell × List String
  | 0, s, _ => (s, [])
  | _, s, [] => (s, [])
  | fuel + 1, s, word :: others =>
    match assignment? word with
    | some (name, value) =>
      let (s, text) := fillWhole fuel s value
      let (s, rest) := fillDeclarations fuel s others
      (s, (name ++ "=" ++ text) :: rest)
    | none =>
      let (s, texts) := fillWords fuel s [word]
      let (s, rest) := fillDeclarations fuel s others
      (s, texts ++ rest)

/-- The command and its arguments that words become. -/
def fillCommand : (fuel : Nat) → Shell → List Word → Shell × List String
  | 0, s, _ => (s, [])
  | _, s, [] => (s, [])
  | fuel + 1, s, word :: others =>
    let (s, first) := fillWords fuel s [word]
    match first with
    | [] => fillCommand fuel s others
    | command :: _ =>
      let (s, rest) :=
        if assigningBuiltins.contains command then fillDeclarations fuel s others
        else fillWords fuel s others
      (s, first ++ rest)

/-- The targets that redirections lead to. -/
def fillTargets : (fuel : Nat) → Shell → List Redirection →
    Shell × List (Nat × Direction × String)
  | 0, s, _ => (s, [])
  | _, s, [] => (s, [])
  | fuel + 1, s, .lead stream direction target :: others =>
    let word := match direction with
      | .document number => (s.documents.lookup number).getD []
      | _ => target
    let (s, text) := fillWhole fuel s word
    let (s, rest) := fillTargets fuel s others
    (s, (stream, direction, text) :: rest)

/-- Leads streams elsewhere, from left to right, and says whether that could be
    done. What is done to files before one fails stays done. -/
def redirect : (fuel : Nat) → Shell → List Redirection → Shell × Bool
  | 0, s, _ => (s, false)
  | fuel + 1, s, redirections =>
    let (s, targets) := fillTargets fuel s redirections
    if !s.goesOn then (s, false)
    else
      targets.foldl (fun (s, led) (stream, direction, target) =>
        if !led then (s, false)
        else
          match s.lead stream direction target with
          | .ok s => (s, true)
          | .error text =>
            if text = "Bad fd number" then (s.abortReading s.lineRead text, false)
            else (s.refuse text, false)) (s, true)

/-- Runs assignments, or a command by its name. -/
def runSimple : (fuel : Nat) → (tested : Bool) → (line : Nat) → List (String × Word) →
    List Word → List Redirection → Shell → Shell
  | 0, _, _, _, _, _, s => s
  | fuel + 1, tested, line, assignments, words, redirections, s =>
    let (s, texts) := fillCommand fuel { s with line := line, innerStatus := 0 } words
    let channels := s.channels
    let special := texts.head?.all specialBuiltins.contains
    if !s.goesOn then s
    else
      let (s, led) := redirect fuel s redirections
      if !led then
        let s := { s with channels := channels }
        if s.goesOn && special && texts ≠ [] then s.exit 2 else s
      else
        let before := s.bindings
        let (s, assigned) := assignments.foldl (fun (s, done) (name, word) =>
          let (s, text) := fillWhole fuel s word
          let s := if s.goesOn then s.assignChecked name text else s
          let s := if s.goesOn && !special then
            s.bind name { s.binding name with exported := true } else s
          (s, done ++ [name ++ "=" ++ text])) (s, [])
        if !s.goesOn then { s with channels := channels }
        else
          let s := if texts = [] && assigned = [] then s else s.trace channels (assigned ++ texts)
          match texts with
          | [] => { s.withStatus s.innerStatus with channels := channels }
          | "exec" :: rest =>
            let s := invoke fuel s tested true "exec" rest
            if rest = [] then s else { s with channels := channels }
          | command :: rest =>
            let s := invoke fuel s tested true command rest
            let s := if special || assignments.isEmpty then s else { s with
              bindings := assignments.foldl (fun bindings (name, _) =>
                let others := bindings.filter (·.1 ≠ name)
                match before.lookup name with
                | some binding => (name, binding) :: others
                | none => others) s.bindings }
            answer fuel { s with channels := channels }

/-- Runs what is to be done at the signals that came. -/
def answer : (fuel : Nat) → Shell → Shell
  | 0, s => s
  | fuel + 1, s =>
    match s.pending with
    | [] => s
    | signal :: others =>
      if !s.goesOn then s
      else
        let status := s.status
        let s := runText fuel false ((s.traps.lookup signal).getD "") { s with pending := others }
        answer fuel (if s.goesOn then s.withStatus status else s)

/-- Runs a command by its name with arguments. -/
def invoke : (fuel : Nat) → Shell → (tested named : Bool) → String → List String → Shell
  | 0, s, _, _, _, _ => s
  | fuel + 1, s, tested, named, command, arguments =>
    match if named && !specialBuiltins.contains command then s.functions.lookup command else none with
    | some body =>
      let called := { s with arguments := arguments, scopes := [] :: s.scopes, loops := 0 }
      (execute fuel tested body called).behindFunction s
    | none =>
      match command, arguments with
      | "eval", _ =>
        let ran := runText fuel tested (" ".intercalate arguments)
          { s.withStatus 0 with runner := some "eval" }
        { ran with runner := s.runner, line := s.line }
      | ".", path :: _ =>
        match s.openToRead path with
        | .error text => s.reject "." text
        | .ok _ =>
          match s.files.readFile (toPath path) with
          | .error _ => s
          | .ok content =>
            let ran := runText fuel tested (ofBytes content) { s.withStatus 0 with runner := some "." }
            let ran := { ran with runner := s.runner, line := s.line }
            if ran.flow = .returning then ran.withFlow .onward else ran
      | "command", "-v" :: names => s.describe names
      | "command", "-V" :: names | "type", names => s.describeInWords names
      | "command", command :: arguments => invoke fuel s tested false command arguments
      | "command", [] => s.withStatus 0
      | "exec", [] => s.withStatus 0
      | "exec", command :: arguments =>
        let ran := runProgram fuel s (some "exec") command arguments
        if ran.goesOn then ran.exit ran.status else ran
      | command, arguments =>
        match { s with lost := false }.runBuiltin? command arguments with
        | some s =>
          if s.lost then (s.complainAs (some command) (command ++ ": I/O error")).withStatus 1
          else s
        | none => runProgram fuel s s.runner command arguments

/-- Runs a program by its name or its path. -/
def runProgram : (fuel : Nat) → Shell → (origin : Option String) → String → List String → Shell
  | 0, s, _, _, _ => s
  | fuel + 1, s, origin, command, arguments =>
    let program := programName command
    let own :=
      if program = "echo" then
        some ((s.writeText 1 (echoPlainly false false arguments)).withStatus 0)
      else if builtinPrograms.contains program then s.runBuiltin? program arguments
      else none
    match program, arguments with
    | "sh", "-c" :: text :: rest | "dash", "-c" :: text :: rest | "bash", "-c" :: text :: rest =>
      let started := { s.inner with
        name := rest.head?.getD program, arguments := rest.drop 1, functions := [], options := []
        bindings := s.bindings.filter (·.2.exported), runner := none, line := 1 }
      s.resumeProgram (finish fuel (runText fuel false text started))
    | "sh", path :: rest | "dash", path :: rest | "bash", path :: rest =>
      runFile fuel s path rest
    | "nohup", program :: rest => runProgram fuel s origin program rest
    | "env", first :: rest =>
      match splitArgument first with
      | (name, some value) =>
        if isName name then
          let ran := runProgram fuel
            (s.bind name { value := some value, exported := true }) origin command rest
          { ran with bindings := s.bindings }
        else runProgram fuel s origin first rest
      | _ => runProgram fuel s origin first rest
    | "timeout", _ :: program :: rest => runProgram fuel s origin program rest
    | program, arguments =>
      match own.orElse fun _ => s.runProgramByName? program arguments with
      | some s => s
      | none =>
        if command.toList.contains '/' then
          match s.files.inspect true (toPath command) with
          | .ok (.file _ true) => runFile fuel s command arguments
          | .ok _ => (s.complainAs origin (command ++ ": Permission denied")).withStatus 126
          | .error error =>
            let reason := reasonOf "not found" error
            (s.complainAs origin (command ++ ": " ++ reason)).withStatus
              (if reason = "not found" then 127 else 126)
        else (s.complainAs origin (command ++ ": not found")).withStatus 127

/-- Runs a script in another file. -/
def runFile : (fuel : Nat) → Shell → String → List String → Shell
  | 0, s, _, _ => s
  | fuel + 1, s, path, arguments =>
    match s.files.readFile (toPath path) with
    | .error _ => (s.complain ("cannot open " ++ path ++ ": No such file")).withStatus 2
    | .ok content =>
      let started := { s.inner with
        name := path, arguments := arguments, functions := [], options := [], runner := none,
        bindings := s.bindings.filter (·.2.exported), line := 1 }
      s.resumeProgram (finish fuel (runText fuel false (ofBytes content) started))

/-- Runs commands given as a text. -/
def runText : (fuel : Nat) → (tested : Bool) → String → Shell → Shell
  | 0, _, _, s => s
  | fuel + 1, tested, text, s =>
    let lineRead := s.lineRead
    let ran := runLines fuel tested
      { rest := text.toList, announced := s.announced, documents := s.documents } s
    { ran with lineRead := lineRead }

/-- Reads commands line by line and runs them. -/
def runLines : (fuel : Nat) → (tested : Bool) → Source → Shell → Shell
  | 0, _, _, s => s
  | fuel + 1, tested, source, s =>
    match source.next with
    | .error error => s.abortReading error.line error.text
    | .ok (none, _) => s
    | .ok (some command, source) =>
      let s := execute fuel tested command { s with
        documents := source.documents, announced := source.announced, lineRead := source.line }
      if s.goesOn then runLines fuel tested source s else s

/-- Runs what is to be done at the end of a script. -/
def finish : (fuel : Nat) → Shell → Shell
  | 0, s => s
  | fuel + 1, s =>
    let killed := match s.flow with
      | .ended status => status.code?.isNone
      | _ => false
    match if killed then none else s.traps.lookup 0 with
    | none | some "" => s
    | some action =>
      let ran := runText fuel false action
        { s.withFlow .onward with traps := s.traps.filter (·.1 ≠ 0), runner := none }
      match ran.flow with
      | .ended _ => ran
      | _ => ran.exit s.status

/-- Runs commands each of which reads what the one before prints. -/
def runPipeline : (fuel : Nat) → (tested : Bool) → Command → List Command → Shell → Shell
  | 0, _, _, _, s => s
  | fuel + 1, tested, first, others, s =>
    match others with
    | [] => s.resume (finish fuel (execute fuel tested first s.inner))
    | next :: others =>
      let (started, number) := s.inner.addOutput
      let done := finish fuel
        (execute fuel tested first (started.withChannel 1 (some (.output number))))
      let after := s.resume done
      let (led, channel) := after.addInput (after.collected number)
      let ran := runPipeline fuel tested next others (led.withChannel 0 (some channel))
      { ran with channels := s.channels }

/-- Runs a command again and again. -/
def runLoop : (fuel : Nat) → (untilSuccess : Bool) → (test body : Command) → (status : Nat) →
    Shell → Shell
  | 0, _, _, _, _, s => s
  | fuel + 1, untilSuccess, test, body, status, s =>
    let (goesOn, s) := (execute fuel true test s).behindRound
    if !goesOn then s
    else if (s.status = 0) == untilSuccess then s.withStatus status
    else
      let (goesOn, s) := (execute fuel false body s).behindRound
      if goesOn then runLoop fuel untilSuccess test body s.status s else s

/-- Runs a command for each of some words. -/
def runForEach : (fuel : Nat) → String → List String → Command → (status : Nat) → Shell → Shell
  | 0, _, _, _, _, s => s
  | _, _, [], _, status, s => s.withStatus status
  | fuel + 1, name, value :: others, body, _, s =>
    let s := s.assignChecked name value
    if !s.goesOn then s
    else
      let (goesOn, s) := (execute fuel false body s).behindRound
      if goesOn then runForEach fuel name others body s.status s else s

/-- Runs the first command one of whose patterns a text matches. -/
def runChoice : (fuel : Nat) → (tested : Bool) → List Char → List (List Word × Command) →
    Shell → Shell
  | 0, _, _, _, s => s
  | _, _, _, [], s => s.withStatus 0
  | fuel + 1, tested, subject, (patterns, body) :: others, s =>
    match patterns with
    | [] => runChoice fuel tested subject others s
    | pattern :: patterns =>
      let (s, segments) := fillPieces fuel s false pattern
      if !s.goesOn then s
      else if (patternOf (joinSegments s.joint segments)).accepts subject then
        match body with
        | .skip => s.withStatus 0
        | body => execute fuel tested body s
      else runChoice fuel tested subject ((patterns, body) :: others) s

/-- Runs a command. Nothing is run once the script has ended. Where a command
    is `tested`, its failure does not end the script. -/
def execute : (fuel : Nat) → (tested : Bool) → Command → Shell → Shell
  | 0, _, _, s => s
  | fuel + 1, tested, command, s =>
    if !s.goesOn then s
    else
      match command with
      | .skip => s
      | .simple line assignments words redirections =>
        (runSimple fuel tested line assignments words redirections s).checkError tested
      | .redirected line command redirections =>
        let channels := s.channels
        let (s, led) := redirect fuel { s with line := line } redirections
        let s := if led then execute fuel tested command s else s
        { s with channels := channels }.checkError tested
      | .enclosed line command =>
        let done := finish fuel (execute fuel tested command { s.inner with line := line })
        (s.resume done).checkError tested
      | .apart command =>
        let started := s.inner.withChannel 0 (some .nothing)
        (s.resume (finish fuel (execute fuel tested command started))).withStatus 0
      | .pipeline first others => (runPipeline fuel tested first others s).checkError tested
      | .sequence first second => execute fuel tested second (execute fuel tested first s)
      | .andThen first second =>
        let s := execute fuel true first s
        if s.goesOn && s.status = 0 then execute fuel tested second s else s
      | .orElse first second =>
        let s := execute fuel true first s
        if s.goesOn && s.status ≠ 0 then execute fuel tested second s else s
      | .negate command =>
        let s := execute fuel true command s
        if s.goesOn then s.withStatus (if s.status = 0 then 1 else 0) else s
      | .conditional test positive negative =>
        let s := execute fuel true test s
        if !s.goesOn then s
        else if s.status = 0 then execute fuel tested positive s
        else
          match negative with
          | .skip => s.withStatus 0
          | negative => execute fuel tested negative s
      | .loop untilSuccess test body =>
        let ran := runLoop fuel untilSuccess test body 0 { s with loops := s.loops + 1 }
        { ran with loops := s.loops }
      | .forEach line name words body =>
        let (s, values) := fillWords fuel { s with line := line } words
        if !s.goesOn then s
        else
          let ran := runForEach fuel name values body 0 { s with loops := s.loops + 1 }
          { ran with loops := s.loops }
      | .choice line subject arms =>
        let (s, text) := fillWhole fuel { s with line := line } subject
        if !s.goesOn then s
        else runChoice fuel tested text.toList arms s
      | .define name body =>
        { s.withStatus 0 with functions := (name, body) :: s.functions.filter (·.1 ≠ name) }

end

end Shell

/-! ## Programs -/

/-- The interpreter that the first line of a file names, if it names one, and
    what stands behind it. -/
def interpreterOf? (content : List UInt8) : Option (String × String) :=
  match Text.decodeLossy (content.takeWhile (· ≠ 10)) with
  | '#' :: '!' :: line =>
    let isGap (c : Char) : Bool := c = ' ' || c = '\t'
    let inner := line.dropWhile isGap
    let name := inner.takeWhile (!isGap ·)
    let behind := (inner.dropWhile (!isGap ·)).dropWhile isGap
    if name = [] then none
    else some (String.ofList name, String.ofList (behind.reverse.dropWhile isGap).reverse)
  | _ => none

/-- The names of shells. -/
def shellNames : List String := ["sh", "dash", "bash"]

/-- What runs a script whose first line names an interpreter: the shell with its
    options, or another program with the arguments that come first. `none` if
    there is no such interpreter. -/
def runnerOf? (files : FileTree) (interpreter argument : String) :
    Option (List Char ⊕ (String × List String)) :=
  let program := Shell.programName interpreter
  let named := program ≠ interpreter
  let options := if argument.startsWith "-" then argument.toList.drop 1 else []
  let shell : Shell := { files := files, name := "", arguments := [], inputs := .empty }
  if named && shellNames.contains program then some (.inl options)
  else if named && program = "env" then
    if shellNames.contains argument then some (.inl [])
    else some (.inr (program, if argument = "" then [] else [argument]))
  else if named && (Shell.builtinPrograms.contains program
      || (shell.runProgramByName? program []).isSome) then
    some (.inr (program, if argument = "" then [] else [argument]))
  else none

/-- Whether a program can be started: it is named by a path, the file there can
    be run, and its first line names an interpreter. -/
def start (files : FileTree) (launch : Tool.Launch) : Except IoError Unit := do
  if (launch.program :: launch.arguments).any (·.toList.contains '\x00') then
    throw (.custom "nul byte found in provided data")
  if !launch.program.toList.contains '/' then throw .notFound
  match ← files.inspect true ⟨launch.program⟩ with
  | .file content true =>
    match interpreterOf? content with
    | none => throw .notExecutable
    | some (name, argument) =>
      if (runnerOf? files name argument).isSome then return () else throw .notFound
  | _ => throw .permissionDenied

/-- The steps that a script may take. -/
def stepLimit : Nat := 1000000

/-- The variables that a script begins with. -/
def firstBindings : List (String × Binding) :=
  [("IFS", { value := some " \t\n" }), ("OPTIND", { value := some "1" }),
   ("PS4", { value := some "+ " })]

/-- What a started script leaves behind. -/
def perform (files : FileTree) (launch : Tool.Launch) : Tool.Finished × FileTree :=
  let content := (files.readFile ⟨launch.program⟩).toOption.getD []
  let runner := (interpreterOf? content).bind fun (name, argument) => runnerOf? files name argument
  let name := ofCharacters launch.program
  let arguments := launch.arguments.map ofCharacters
  let shell : Shell := {
    files := files
    name := name
    arguments := arguments
    bindings := firstBindings
    inputs := #[launch.input] }
  let done := match runner with
    | some (.inr (program, first)) =>
      Shell.runProgram stepLimit shell none program (first ++ name :: arguments)
    | some (.inl options) =>
      Shell.finish stepLimit
        (Shell.runText stepLimit false (ofBytes content) { shell with options := options })
    | none => shell
  let status := match done.flow with
    | .ended status => status
    | _ => .exited done.status
  (⟨status, done.collected 0, done.collected 1⟩,
    { done.files with workingDir := files.workingDir })

/-- The toolbox of scripts. -/
def toolbox : Tool.Toolbox := ⟨start, perform⟩

end RenderCheck.Script
