import RenderCheck.Script.LinePattern
import RenderCheck.Script.TextUtility

/-! # Programs that edit lines

    The programs that scripts find by name that look for patterns: one prints
    the lines that match, the other runs a little script of its own on each
    line. -/

namespace RenderCheck.Script

namespace Shell

/-! ## Finding lines -/

/-- What `grep` is asked for. -/
structure Search where
  letters : List Char := []
  patterns : List String := []
  operands : List String := []

/-- Reads the arguments of `grep`. -/
def readSearch : Search → List String → Search
  | search, [] => search
  | search, "-e" :: pattern :: rest =>
    readSearch { search with patterns := search.patterns ++ [pattern] } rest
  | search, "--" :: rest => { search with operands := search.operands ++ rest }
  | search, argument :: rest =>
    match argument.toList with
    | '-' :: c :: more => readSearch { search with letters := search.letters ++ c :: more } rest
    | _ => readSearch { search with operands := search.operands ++ [argument] } rest

/-- The pattern of some texts one of which is looked for. -/
def searchPattern? (extended fixed : Bool) (texts : List String) : Option LinePattern :=
  let lines := texts.flatMap (·.splitOn "\n")
  let read (text : String) : Option LinePattern :=
    if fixed then
      some (text.toList.foldr (fun c rest => .concat (.char c) rest) .empty)
    else LinePattern.read? extended text
  lines.foldr (fun text others => do
    let first ← read text
    match others with
    | some others => return .either first others
    | none => return first) none

/-- Prints the lines that match a pattern, or says whether there are any. -/
def grep (s : Shell) (program : String) (arguments : List String) : Shell :=
  let search := readSearch {} arguments
  let has (letter : Char) : Bool := search.letters.contains letter
  let (texts, operands) :=
    if search.patterns = [] then (search.operands.take 1, search.operands.drop 1)
    else (search.patterns, search.operands)
  let extended := has 'E' || program = "egrep"
  match searchPattern? extended (has 'F' || program = "fgrep") texts with
  | none => (s.fault "grep" "Invalid regular expression").withStatus 2
  | some pattern =>
    let operands := if operands = [] then ["-"] else operands
    let named := (1 < operands.length || has 'H') && !has 'h'
    let matchesLine (line : List UInt8) : Bool :=
      let text := (ofBytes line).toList.toArray
      if has 'x' then
        (pattern.ends (has 'i') text { position := 0 }).any (·.position = text.size)
      else (pattern.find? (has 'i') text 0).isSome
    let (s, found, failed) := operands.foldl (fun (s, found, failed) path =>
      let (read, content) := { s with lost := false }.allContent "grep" [path]
      if read.status ≠ 0 then (if has 's' then s else read, found, true)
      else
        let numbered := (bareLines content).zipIdx
        let hits := numbered.filter fun (line, _) => matchesLine line != has 'v'
        let name := if path = "-" then "(standard input)" else path
        let head := if named then name ++ ":" else ""
        let printed : String :=
          if has 'q' then ""
          else if has 'c' then head ++ toString hits.length ++ "\n"
          else if has 'l' then (if hits = [] then "" else name ++ "\n")
          else
            String.join (hits.map fun (line, index) =>
              let number := if has 'n' then toString (index + 1) ++ ":" else ""
              if has 'o' then
                match pattern.find? (has 'i') (ofBytes line).toList.toArray 0 with
                | some (start, stop) =>
                  head ++ number ++ String.ofList
                    (((ofBytes line).toList.drop start).take (stop.position - start)) ++ "\n"
                | none => ""
              else head ++ number ++ ofBytes line ++ "\n")
        (read.writeText 1 printed, found || hits ≠ [], failed)) (s, false, false)
    s.withStatus (if failed && !(found && has 'q') then 2 else if found then 0 else 1)

/-! ## Editing lines -/

/-- Which lines a command of an editing script is for. -/
inductive Address where
  | line (number : Nat)
  | last
  | matching (pattern : LinePattern)

/-- What a command of an editing script does. -/
inductive Edit where
  | delete
  | print
  | quit
  | number
  /-- Prints a text behind the line, before it, or in its place. -/
  | append (text : String)
  | insert (text : String)
  | change (text : String)
  /-- Replaces characters one by one. -/
  | transliterate (source target : List Char)
  /-- Replaces what matches: from which occurrence on, all or one, and whether
      the line is printed then. -/
  | substitute (pattern : LinePattern) (replacement : List Char) (anyCase : Bool)
      (occurrence : Nat) (all prints : Bool)

/-- A command of an editing script. -/
structure EditCommand where
  first : Option Address
  second : Option Address
  inverted : Bool
  edit : Edit

/-- Takes text up to a divider off the front. Behind a backslash the divider
    stands for itself. -/
def takeDivided (divider : Char) : List Char → Option (List Char × List Char)
  | [] => none
  | '\\' :: c :: rest =>
    (takeDivided divider rest).map fun (text, rest) =>
      (if c = divider then c :: text else '\\' :: c :: text, rest)
  | c :: rest =>
    if c = divider then some ([], rest)
    else (takeDivided divider rest).map fun (text, rest) => (c :: text, rest)

/-- Reads an address at the front of a text. -/
def readAddress (extended : Bool) (text : List Char) : Option (Option Address × List Char) :=
  match text with
  | '$' :: rest => some (some .last, rest)
  | '/' :: rest => do
    let (pattern, rest) ← takeDivided '/' rest
    return (some (.matching (← LinePattern.read? extended (String.ofList pattern))), rest)
  | text =>
    let digits := text.takeWhile Char.isDigit
    some (if digits = [] then none else some (.line (Nat.ofDigitChars 10 digits 0)),
      text.dropWhile Char.isDigit)

/-- Reads what a command does, up to its end. -/
def readEdit (extended : Bool) (text : List Char) : Option (Edit × List Char) :=
  let message (rest : List Char) : String × List Char :=
    let rest := rest.dropWhile (· = ' ')
    let rest := match rest with
      | '\\' :: '\n' :: rest => rest
      | '\\' :: rest => rest
      | rest => rest
    (String.ofList (rest.takeWhile (· ≠ '\n')), rest.dropWhile (· ≠ '\n'))
  match text with
  | 'd' :: rest => some (.delete, rest)
  | 'p' :: rest => some (.print, rest)
  | 'q' :: rest => some (.quit, rest)
  | '=' :: rest => some (.number, rest)
  | 'a' :: rest => some (.append (message rest).1, (message rest).2)
  | 'i' :: rest => some (.insert (message rest).1, (message rest).2)
  | 'c' :: rest => some (.change (message rest).1, (message rest).2)
  | 'y' :: divider :: rest => do
    let (source, rest) ← takeDivided divider rest
    let (target, rest) ← takeDivided divider rest
    if source.length ≠ target.length then none
    return (.transliterate source target, rest)
  | 's' :: divider :: rest => do
    let (pattern, rest) ← takeDivided divider rest
    let (replacement, rest) ← takeDivided divider rest
    let isFlag (c : Char) : Bool := c.isDigit || ['g', 'p', 'i', 'I'].contains c
    let flags := rest.takeWhile isFlag
    let digits := flags.filter Char.isDigit
    let occurrence := if digits = [] then 1 else Nat.ofDigitChars 10 digits 0
    return (.substitute (← LinePattern.read? extended (String.ofList pattern)) replacement
      (flags.contains 'i' || flags.contains 'I') occurrence (flags.contains 'g')
      (flags.contains 'p'), rest.dropWhile isFlag)
  | _ => none

/-- Reads the commands of an editing script. The fuel is its length. -/
def readEdits (extended : Bool) : (fuel : Nat) → List Char → Option (List EditCommand)
  | 0, _ => none
  | fuel + 1, text => do
    match text.dropWhile fun c => [' ', '\t', '\n', ';'].contains c with
    | [] => return []
    | text =>
      let (first, rest) ← readAddress extended text
      let (second, rest) ← match first, rest with
        | some _, ',' :: rest => readAddress extended rest
        | _, rest => some (none, rest)
      let rest := rest.dropWhile (· = ' ')
      let inverted := rest.head? = some '!'
      let (edit, rest) ← readEdit extended (if inverted then rest.drop 1 else rest)
      let rest := rest.dropWhile (· = ' ')
      if rest.head?.all fun c => c = '\n' || c = ';' then
        return ⟨first, second, inverted, edit⟩ :: (← readEdits extended fuel rest)
      else none

/-- A replacement with what matched filled in. -/
def fillReplacement (line : Array Char) (start : Nat) (stop : LinePattern.Place) :
    List Char → List Char
  | '\\' :: c :: rest =>
    let text :=
      if c.isDigit then
        match c.toNat - 48 with
        | 0 => (line.extract start stop.position).toList
        | number =>
          match stop.kept.lookup number with
          | some (start, stop) => (line.extract start stop).toList
          | none => []
      else if c = 'n' then ['\n']
      else if c = 't' then ['\t']
      else [c]
    text ++ fillReplacement line start stop rest
  | '&' :: rest =>
    (line.extract start stop.position).toList ++ fillReplacement line start stop rest
  | c :: rest => c :: fillReplacement line start stop rest
  | [] => []

/-- The line with matches replaced from a position on, and whether there were
    any; `skipped` is how many are left as they are. The fuel is the length of
    the line. -/
def substituteIn (pattern : LinePattern) (replacement : List Char) (anyCase all : Bool)
    (line : Array Char) : (fuel skipped position : Nat) → List Char × Bool
  | 0, _, position => ((line.extract position line.size).toList, false)
  | fuel + 1, skipped, position =>
    match pattern.find? anyCase line position with
    | none => ((line.extract position line.size).toList, false)
    | some (start, stop) =>
      let before := (line.extract position start).toList
      let own := if skipped = 0 then fillReplacement line start stop replacement
        else (line.extract start stop.position).toList
      let step := if stop.position = start then
          (line.extract start (start + 1)).toList else []
      let next := stop.position + step.length
      if skipped = 0 && !all then
        (before ++ own ++ (line.extract stop.position line.size).toList, true)
      else if line.size < next || (step = [] && stop.position = start) then
        (before ++ own, skipped = 0)
      else
        let (rest, changed) :=
          substituteIn pattern replacement anyCase all line fuel (skipped - 1) next
        (before ++ own ++ step ++ rest, changed || skipped = 0)

/-- The state of an editing script between lines. -/
structure Editing where
  printed : List (List Char) := []
  /-- The commands whose second address is still to come. -/
  open_ : List Nat := []
  ended : Bool := false

/-- The state of an editing script within a line. -/
structure LineEditing where
  line : List Char
  before : List (List Char) := []
  behind : List (List Char) := []
  deleted : Bool := false
  stopped : Bool := false

/-- An address is that of a line. -/
def Address.isAt (address : Address) (line : List Char) (number : Nat) (isLast : Bool) : Bool :=
  match address with
  | .line n => n = number
  | .last => isLast
  | .matching pattern => (pattern.find? false line.toArray 0).isSome

/-- Whether a command is for a line, and the commands that wait for their second
    address then. -/
def EditCommand.selects (command : EditCommand) (index : Nat) (open_ : List Nat)
    (line : List Char) (number : Nat) (isLast : Bool) : Bool × List Nat :=
  match command.first, command.second with
  | none, _ => (true, open_)
  | some first, none => (first.isAt line number isLast, open_)
  | some first, some second =>
    if open_.contains index then
      let closes : Bool := match second with
        | .line n => n ≤ number
        | second => second.isAt line number isLast
      (true, if closes then open_.filter (· ≠ index) else open_)
    else if first.isAt line number isLast then
      let closed : Bool := match second with
        | .line n => n ≤ number
        | _ => false
      (true, if closed then open_ else index :: open_)
    else (false, open_)

/-- Does to a line what a command says. -/
def Edit.apply (edit : Edit) (number : Nat) (e : LineEditing) : LineEditing :=
  match edit with
  | .delete => { e with deleted := true, stopped := true }
  | .print => { e with before := e.before ++ [e.line] }
  | .quit => { e with stopped := true }
  | .number => { e with before := e.before ++ [(toString number).toList] }
  | .append text => { e with behind := e.behind ++ [text.toList] }
  | .insert text => { e with before := e.before ++ [text.toList] }
  | .change text =>
    { e with before := e.before ++ [text.toList], deleted := true, stopped := true }
  | .transliterate source target =>
    { e with line := e.line.map fun c => ((source.zip target).lookup c).getD c }
  | .substitute pattern replacement anyCase occurrence all prints =>
    let (line, changed) := substituteIn pattern replacement anyCase all e.line.toArray
      (e.line.length + 2) (occurrence - 1) 0
    { e with line := line, before := if changed && prints then e.before ++ [line] else e.before }

/-- Runs an editing script on one line. -/
def editLine (quiet : Bool) (commands : List EditCommand) (state : Editing) (line : List Char)
    (number : Nat) (isLast : Bool) : Editing :=
  if state.ended then state
  else
    let (e, open_, quit) := (commands.zipIdx).foldl (fun (e, open_, quit) (command, index) =>
      if e.stopped then (e, open_, quit)
      else
        let (selected, open_) := command.selects index open_ e.line number isLast
        if selected != command.inverted then
          let quits := match command.edit with
            | .quit => true
            | _ => false
          (command.edit.apply number e, open_, quit || quits)
        else (e, open_, quit)) (({ line := line } : LineEditing), state.open_, false)
    let own := if e.deleted || quiet then [] else [e.line]
    ⟨state.printed ++ e.before ++ own ++ e.behind, open_, quit⟩

/-- The scripts and files among the arguments of `sed`. -/
def readEditArguments : List String → List Char × List String × List String
  | [] => ([], [], [])
  | "-e" :: script :: rest =>
    let (letters, scripts, operands) := readEditArguments rest
    (letters, script :: scripts, operands)
  | argument :: rest =>
    let (letters, scripts, operands) := readEditArguments rest
    match argument.toList with
    | '-' :: c :: more => (c :: more ++ letters, scripts, operands)
    | _ => (letters, scripts, argument :: operands)

/-- Runs a script of edits on the lines of files or of the input. -/
def sed (s : Shell) (arguments : List String) : Shell :=
  let (letters, scripts, operands) := readEditArguments arguments
  let (scripts, operands) :=
    if scripts = [] then (operands.take 1, operands.drop 1) else (scripts, operands)
  let script := "\n".intercalate scripts
  let extended := letters.contains 'E' || letters.contains 'r'
  match readEdits extended (script.length + 1) script.toList with
  | none => s.fault "sed" "-e expression #1, char 0: unknown command"
  | some commands =>
    let edit (content : List UInt8) : List UInt8 :=
      let lines := bareLines content
      let state := (lines.zipIdx).foldl (fun state (line, index) =>
        editLine (letters.contains 'n') commands state (ofBytes line).toList (index + 1)
          (index + 1 = lines.length)) {}
      let bytes := state.printed.flatMap fun line => toBytes (String.ofList line) ++ [10]
      if content.getLast?.all (· = 10) then bytes else bytes.dropLast
    if letters.contains 'i' then
      operands.foldl (fun s path =>
        match s.files.readFile (toPath path) with
        | .ok content =>
          s.changeFiles "sed" path (s.files.writeFile (toPath path) (edit content))
        | .error error =>
          s.fault "sed" ("can't read " ++ path ++ ": " ++ systemReason error)) (s.withStatus 0)
    else
      let present := operands.filter fun path => path = "-" || s.files.isFile (toPath path)
      let missing := operands.filter fun path => !present.contains path
      let (s, content) := s.allContent "sed" (if operands = [] then ["-"] else present)
      let s := missing.foldl (fun s path =>
        if s.files.isDir (toPath path) then
          s.fault "sed" ("couldn't edit " ++ path ++ ": not a regular file")
        else (s.fault "sed" ("can't read " ++ path ++ ": No such file or directory")).withStatus 2) s
      s.write 1 (if operands ≠ [] && present = [] then [] else edit content)

/-- Runs a program that is found by name. -/
def runProgramByName? (s : Shell) (program : String) (arguments : List String) : Option Shell :=
  match program with
  | "grep" | "egrep" | "fgrep" => some (s.grep program arguments)
  | "sed" => some (s.sed arguments)
  | _ => s.runUtility? program arguments

end Shell

end RenderCheck.Script
