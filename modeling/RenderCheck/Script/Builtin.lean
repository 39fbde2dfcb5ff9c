import RenderCheck.Script.Condition
import RenderCheck.Script.Fields
import RenderCheck.Script.Printing
import RenderCheck.Script.Shell

/-! # Commands of the shell itself

    Commands that change the state of the script: its variables, arguments,
    options and directory, and where it goes on. An error in one that is
    special ends the script. -/

namespace RenderCheck.Script

/-- The commands in which an error ends the script. -/
def specialBuiltins : List String :=
  [".", ":", "break", "continue", "eval", "exec", "exit", "export", "local", "readonly", "return",
   "set", "shift", "times", "trap", "unset"]

/-- The names of all commands of the shell itself. -/
def builtins : List String :=
  specialBuiltins ++
  ["[", "cd", "chdir", "command", "echo", "false", "getopts", "hash", "kill", "printf", "pwd", "read",
   "test", "true", "type", "ulimit", "umask", "wait", "alias", "bg", "fg", "jobs", "unalias"]

/-- The commands whose arguments may be assignments, which are not cut. -/
def assigningBuiltins : List String :=
  ["export", "local", "readonly"]

/-- The options by letter and by name. -/
def optionNames : List (Char × String) :=
  [('e', "errexit"), ('f', "noglob"), ('I', "ignoreeof"), ('i', "interactive"), ('m', "monitor"),
   ('n', "noexec"), ('s', "stdin"), ('x', "xtrace"), ('v', "verbose"), ('V', "vi"), ('E', "emacs"),
   ('C', "noclobber"), ('a', "allexport"), ('b', "notify"), ('u', "nounset")]

/-! ## Signals -/

/-- The number of a signal, given by number or by name; zero is the end of the
    script. -/
def signalNumber? (text : String) : Option Nat :=
  match text.toNat? with
  | some number => if number < 65 then some number else none
  | none =>
    let name := "SIG" ++ String.ofList (text.toList.map Char.toUpper)
    if name = "SIGEXIT" then some 0
    else (Tool.Status.signalNames.idxOf? name).map (· + 1)

/-- The signals that do nothing unless something is done about them: a child
    ended, going on, urgent data, a window changed. -/
def harmlessSignals : List Nat :=
  [17, 18, 23, 28]

/-- The signals that only stop a process. -/
def stoppingSignals : List Nat :=
  [19, 20, 21, 22]

/-- The name of a signal. -/
def signalName (signal : Nat) : String :=
  match signal with
  | 0 => "EXIT"
  | index + 1 =>
    match Tool.Status.signalNames[index]? with
    | some name => String.ofList (name.toList.drop 3)
    | none => toString signal

namespace Shell

/-- A signal comes to the script. -/
def receive (s : Shell) (signal : Nat) : Shell :=
  if signal = 0 then s
  else
    match if signal = 9 then none else s.traps.lookup signal with
    | some "" => s
    | some _ => { s with pending := s.pending ++ [signal] }
    | none =>
      if harmlessSignals.contains signal || stoppingSignals.contains signal then s
      else s.withFlow (.ended (.killed signal))

/-- Complains about a command of the shell itself, which fails. -/
def reject (s : Shell) (command text : String) : Shell :=
  let s := s.complainAs (some command) text
  if specialBuiltins.contains command then s.exit 2 else s.withStatus 2

/-- Goes on with the number an argument writes. -/
def withNumber (s : Shell) (command argument : String) (goOn : Nat → Shell) : Shell :=
  if argument ≠ "" && argument.toList.all Char.isDigit then
    goOn (Nat.ofDigitChars 10 argument.toList 0)
  else s.reject command ("Illegal number: " ++ argument)

/-- Sends a signal to processes, of which a script only knows itself. -/
def signalAll (s : Shell) (signal : Nat) : List String → Shell
  | [] => s
  | target :: targets =>
    if target = ownProcess then (s.receive signal).signalAll signal targets
    else
      let digits := if target.toList.head? = some '-' then target.toList.drop 1 else target.toList
      if target.toList.head? = some '%' then s.reject "kill" ("No such job: " ++ target)
      else if digits ≠ [] && digits.all Char.isDigit then
        ((s.complainAs (some "kill") "No such process\n").withStatus 1).signalAll signal targets
      else s.reject "kill" ("Illegal number: " ++ target)

/-- Sends a signal. -/
def kill (s : Shell) (arguments : List String) : Shell :=
  let usage := "Usage: kill [-s sigspec | -signum | -sigspec] [pid | job]... or\n"
    ++ "kill -l [exitstatus]"
  let send (signal : Nat) (targets : List String) : Shell :=
    if targets = [] then s.reject "kill" usage else (s.withStatus 0).signalAll signal targets
  match arguments with
  | [] => s.reject "kill" usage
  | first :: rest =>
    match first.toList with
    | '-' :: letters =>
      match signalNumber? (String.ofList letters), letters, rest with
      | some signal, _, _ => send signal rest
      | none, ['-'], _ => send 15 rest
      | none, ['l'], [] =>
        (s.writeText 1 (String.join ((List.range 31).map fun n => signalName (n + 1) ++ "\n"))).withStatus 0
      | none, ['l'], number :: _ =>
        s.withNumber "kill" number fun signal =>
          (s.writeText 1 (signalName (signal % 128) ++ "\n")).withStatus 0
      | none, ['s'], name :: targets =>
        match signalNumber? name with
        | some signal => send signal targets
        | none => s.reject "kill" ("invalid signal number or name: " ++ name)
      | none, 's' :: name, _ =>
        match if name = [] then none else signalNumber? (String.ofList name) with
        | some signal => send signal rest
        | none => s.reject "kill"
          (if name = [] then "No arg for -s option"
           else "invalid signal number or name: " ++ String.ofList name)
      | none, letter :: _, _ => s.reject "kill" ("Illegal option -" ++ letter.toString)
      | none, [], _ => s.reject "kill" "Illegal number: "
    | _ => send 15 arguments

/-- A text in single quotes, which the shell reads as that text. -/
def quoteForShell (text : String) : String :=
  "'" ++ "'\"'\"'".intercalate (text.splitOn "'") ++ "'"

/-- Says what is done at signals. -/
def listTraps (s : Shell) : Shell :=
  (s.traps.mergeSort fun a b => a.1 ≤ b.1).foldl (fun s (signal, action) =>
    s.writeText 1 ("trap -- " ++ quoteForShell action ++ " " ++ signalName signal ++ "\n"))
    (s.withStatus 0)

/-- Sets what is done at signals. -/
def trap (s : Shell) (arguments : List String) : Shell :=
  let arguments := if arguments.head? = some "--" then arguments.drop 1 else arguments
  if arguments = [] then s.listTraps
  else
    let (action, signals) := match arguments with
      | [] => (none, [])
      | [signal] => (none, [signal])
      | action :: signals =>
        if (action.toNat?).isSome then (none, action :: signals)
        else (if action = "-" then none else some action, signals)
    signals.foldl (fun s name =>
      match signalNumber? name with
      | none => (s.writeText 2 ("trap: " ++ name ++ ": bad trap\n")).withStatus 1
      | some signal =>
        let others := s.traps.filter (·.1 ≠ signal)
        { s with traps := match action with
            | some action => (signal, action) :: others
            | none => others }) (s.withStatus 0)

/-! ## Variables -/

/-- Sets a variable unless it is fixed. -/
def assignChecked (s : Shell) (name value : String) : Shell :=
  if (s.binding name).fixed then s.abort (name ++ ": is read only")
  else s.assign name value

/-- The name in an argument, and the value behind an equals sign. -/
def splitArgument (argument : String) : String × Option String :=
  match argument.toList.dropWhile (· ≠ '=') with
  | [] => (argument, none)
  | _ :: value => (String.ofList (argument.toList.takeWhile (· ≠ '=')), some (String.ofList value))

/-- Does something to each variable that is named, after setting those that are
    given a value. -/
def declare (s : Shell) (command : String) (change : Shell → String → Shell)
    (arguments : List String) : Shell :=
  arguments.foldl (fun s argument =>
    let (name, value) := splitArgument argument
    if !s.goesOn then s
    else if !isName name then s.reject command (name ++ ": bad variable name")
    else
      match value with
      | some value => change (s.assignChecked name value) name
      | none => change s name) (s.withStatus 0)

/-- Forgets variables or functions. -/
def unset (s : Shell) (arguments : List String) : Shell :=
  let (functions, names) := match arguments with
    | "-f" :: names => (true, names)
    | "-v" :: names => (false, names)
    | names => (false, names)
  names.foldl (fun s name =>
    if functions then { s with functions := s.functions.filter (·.1 ≠ name) }
    else if !isName name then s.reject "unset" (name ++ ": bad variable name")
    else if (s.binding name).fixed then s.reject "unset" (name ++ ": is read only")
    else { s with bindings := s.bindings.filter (·.1 ≠ name) }) (s.withStatus 0)

/-- Makes variables belong to the function that is running. -/
def makeLocal (s : Shell) (arguments : List String) : Shell :=
  match s.scopes with
  | [] => s.reject "local" "not in a function"
  | _ =>
    arguments.foldl (fun s argument =>
      let (name, value) := splitArgument argument
      if !isName name then s.reject "local" (name ++ ": bad variable name")
      else
        let s := match s.scopes with
          | scope :: scopes => { s with scopes := ((name, s.binding name) :: scope) :: scopes }
          | [] => s
        match value with
        | some value => s.assignChecked name value
        | none => s) (s.withStatus 0)

/-! ## Options and arguments -/

/-- Sets an option, or takes it back. -/
def setOption (s : Shell) (on : Bool) (letter : Char) : Shell :=
  let others := s.options.filter (· ≠ letter)
  { s with options := if on then letter :: others else others }

/-- Sets options and arguments. -/
def setAll (s : Shell) : List String → Shell
  | [] => s
  | argument :: rest =>
    match argument.toList with
    | ['-', '-'] => { s with arguments := rest }
    | ['-'] => if rest = [] then s else { s with arguments := rest }
    | ['-', 'o'] | ['+', 'o'] =>
      match rest with
      | [] => s
      | name :: rest =>
        match optionNames.find? (·.2 = name) with
        | some (letter, _) => (s.setOption (argument = "-o") letter).setAll rest
        | none => s.reject "set" ("Illegal option " ++ argument ++ " " ++ name)
    | sign :: letters =>
      if sign = '-' || sign = '+' then
        match letters.find? fun letter => (optionNames.lookup letter).isNone with
        | some letter => s.reject "set" ("Illegal option " ++ String.ofList [sign, letter])
        | none => (letters.foldl (setOption · (sign = '-')) s).setAll rest
      else { s with arguments := argument :: rest }
    | [] => { s with arguments := argument :: rest }

/-- Drops arguments. -/
def shift (s : Shell) (arguments : List String) : Shell :=
  s.withNumber "shift" (arguments.head?.getD "1") fun count =>
    if s.arguments.length < count then s.reject "shift" "can't shift that many"
    else { s.withStatus 0 with arguments := s.arguments.drop count }

/-! ## Reading lines -/

/-- Takes a line off some bytes: its glyphs, what follows, and whether it
    ended. A backslash takes the meaning from a separator and joins lines,
    unless the bytes are taken as they are. -/
def takeLine (raw : Bool) : List Char → List Glyph × List Char × Bool
  | [] => ([], [], false)
  | '\n' :: rest => ([], rest, true)
  | ['\\'] => if raw then ([⟨'\\', false⟩], [], false) else ([], [], false)
  | '\\' :: c :: rest =>
    if raw then
      let (line, behind, ended) := takeLine raw (c :: rest)
      (⟨'\\', false⟩ :: line, behind, ended)
    else
      let (line, behind, ended) := takeLine raw rest
      (if c = '\n' then line else ⟨c, true⟩ :: line, behind, ended)
  | c :: rest =>
    let (line, behind, ended) := takeLine raw rest
    (⟨c, false⟩ :: line, behind, ended)

/-- The texts that a line is cut into, at most so many; the last takes all that
    is left. -/
def cutLine (separators : List Char) : (count : Nat) → List Glyph → List String
  | 0, _ => []
  | count + 1, line =>
    let isSeparator (g : Glyph) : Bool := !g.quoted && separators.contains g.char
    let isBlank (g : Glyph) : Bool := isSeparator g && [' ', '\t', '\n'].contains g.char
    let line := line.dropWhile isBlank
    let first := line.takeWhile (!isSeparator ·)
    let behind := (line.drop first.length).dropWhile isBlank
    let behind := if behind.head?.any isSeparator && !(behind.head?.any isBlank) then
      (behind.drop 1).dropWhile isBlank else behind
    if count = 0 then
      if behind = [] then [textOf first]
      else [textOf (line.reverse.dropWhile isBlank).reverse]
    else textOf first :: cutLine separators count behind

/-- Reads a line into variables. -/
def readVariables (s : Shell) (arguments : List String) : Shell :=
  let raw := arguments.head? = some "-r"
  match if raw then arguments.drop 1 else arguments with
  | [] => s.reject "read" "arg count"
  | names =>
    let (line, behind, ended) := takeLine raw (ofBytes (s.unread 0)).toList
    let s := (s.withUnread 0 (toBytes (String.ofList behind))).withStatus (if ended then 0 else 1)
    let values := cutLine s.separators names.length line
    (names.zipIdx).foldl (fun s (name, index) =>
      if isName name then s.assignChecked name ((values[index]?).getD "")
      else s.reject "read" (name ++ ": bad variable name")) s

/-! ## Directories -/

/-- The path of the working directory. -/
def workingPath (s : Shell) : String :=
  ofCharacters ("/" ++ "/".intercalate s.files.workingDir)

/-- Changes the working directory. -/
def changeDirectory (s : Shell) (arguments : List String) : Shell :=
  let arguments := arguments.filter fun argument => argument ≠ "-L" && argument ≠ "-P"
  let target := match arguments.head? with
    | none => (s.binding "HOME").value.getD ""
    | some "-" => (s.binding "OLDPWD").value.getD ""
    | some target => target
  match s.files.locate true (toPath target) with
  | .ok ⟨location, some .directory⟩ =>
    let before := s.workingPath
    let s := { s.withStatus 0 with files := { s.files with workingDir := location } }
    let s := (s.assign "OLDPWD" before).assign "PWD" s.workingPath
    if arguments.head? = some "-" then s.writeText 1 (s.workingPath ++ "\n") else s
  | _ => if target = "" then s.withStatus 0 else s.reject "cd" ("can't cd to " ++ target)

/-! ## All together -/

/-- Leaves loops, or goes on with their next round. -/
def leaveLoops (s : Shell) (command : String) (flow : Nat → Flow) (arguments : List String) :
    Shell :=
  s.withNumber command (arguments.head?.getD "1") fun count =>
    if count = 0 then s.reject command "Illegal number: 0"
    else
      match min count s.loops with
      | 0 => s.withStatus 0
      | count => (s.withStatus 0).withFlow (flow count)

/-- Prints with a format. -/
def printFormatted (s : Shell) (arguments : List String) : Shell :=
  let option := match arguments.head?.map String.toList with
    | some ('-' :: c :: _) => if c = '-' then none else some c
    | _ => none
  match option, if arguments.head? = some "--" then arguments.drop 1 else arguments with
  | some letter, _ => s.reject "printf" ("Illegal option -" ++ letter.toString)
  | none, [] => s.reject "printf" "usage: printf format [arg ...]"
  | none, format :: arguments =>
    let p := printf format arguments
    let s := p.complaints.foldl (fun s text => s.complainAs (some "printf") text) s
    (s.writeText 1 (String.ofList p.printed.toList)).withStatus
      (if p.broken then 2 else if p.failed then 1 else 0)

/-- Says whether a condition holds. -/
def testCondition (s : Shell) (command : String) (arguments : List String) : Shell :=
  match Condition.evaluate s.files (arguments.length + 1) arguments with
  | .ok holds => s.withStatus (if holds then 0 else 1)
  | .error complaint => s.reject command complaint

/-- Runs a command of the shell itself that needs no other commands. -/
def runBuiltin? (s : Shell) (command : String) (arguments : List String) : Option Shell :=
  match command with
  | ":" | "true" | "wait" | "ulimit" | "hash" | "times" | "alias" | "jobs" | "unalias" =>
    some (s.withStatus 0)
  | "false" => some (s.withStatus 1)
  | "echo" => some ((s.writeText 1 (echo arguments)).withStatus 0)
  | "printf" => some (s.printFormatted arguments)
  | "test" => some (s.testCondition "test" arguments)
  | "[" => some <|
    if arguments.getLast? = some "]" then s.testCondition "[" arguments.dropLast
    else s.reject "[" "missing ]"
  | "shift" => some (s.shift arguments)
  | "set" => some ((s.withStatus 0).setAll arguments)
  | "unset" => some (s.unset arguments)
  | "export" => some <| s.declare "export" (fun s name =>
      s.bind name { s.binding name with exported := true }) arguments
  | "readonly" => some <| s.declare "readonly" (fun s name =>
      s.bind name { s.binding name with fixed := true }) arguments
  | "local" => some (s.makeLocal arguments)
  | "read" => some (s.readVariables arguments)
  | "cd" | "chdir" => some (s.changeDirectory arguments)
  | "pwd" => some ((s.writeText 1 (s.workingPath ++ "\n")).withStatus 0)
  | "umask" => some <|
    (if arguments = [] then s.writeText 1 "0022\n" else s).withStatus 0
  | "trap" => some (s.trap arguments)
  | "kill" => some (s.kill arguments)
  | "break" => some (s.leaveLoops "break" .leaving arguments)
  | "continue" => some (s.leaveLoops "continue" .renewing arguments)
  | "return" => some <| match arguments.head? with
    | none => s.withFlow .returning
    | some code => s.withNumber "return" code fun code =>
      (s.withStatus code).withFlow .returning
  | "exit" => some <| match arguments.head? with
    | none => s.exit s.status
    | some code => s.withNumber "exit" code s.exit
  | _ => none

end Shell

end RenderCheck.Script
