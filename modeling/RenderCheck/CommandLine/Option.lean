import RenderCheck.Text.Terminal

/-! # Options

    What can be given on the command line: two directories by position, and
    options by a long name, some of them by a letter as well. Some options
    take a value, the others stand for themselves. -/

namespace RenderCheck.CommandLine

/-- An option that takes a value. -/
inductive ValueOption where
  | diffDir
  | threshold
  | pattern
  | backend
  | compareBin
  | montageBin
  | diffBin
  | logFormat
  deriving DecidableEq

/-- An option that stands for itself. -/
inductive Switch where
  | textDiff
  | verbose
  | help
  | version
  deriving DecidableEq

/-- An option. -/
inductive Key where
  | value (option : ValueOption)
  | switch (switch : Switch)
  deriving DecidableEq

/-- A directory that is given by its position. -/
inductive Place where
  | reference
  | render
  deriving DecidableEq

/-! ## Names -/

/-- The long name of an option. -/
def Key.long : Key → String
  | .value .diffDir => "diff-dir"
  | .value .threshold => "threshold"
  | .value .pattern => "pattern"
  | .value .backend => "backend"
  | .value .compareBin => "compare-bin"
  | .value .montageBin => "montage-bin"
  | .value .diffBin => "diff-bin"
  | .value .logFormat => "log-format"
  | .switch .textDiff => "text-diff"
  | .switch .verbose => "verbose"
  | .switch .help => "help"
  | .switch .version => "version"

/-- The letter of an option. -/
def Key.letter? : Key → Option Char
  | .value .diffDir => some 'd'
  | .value .threshold => some 't'
  | .value .backend => some 'b'
  | .switch .verbose => some 'v'
  | .switch .help => some 'h'
  | .switch .version => some 'V'
  | _ => none

/-- All options. -/
def Key.all : List Key :=
  [.value .diffDir, .value .threshold, .value .pattern, .value .backend, .value .compareBin,
   .value .montageBin, .value .diffBin, .value .logFormat, .switch .textDiff,
   .switch .verbose, .switch .help, .switch .version]

/-- The option with a long name. -/
def Key.ofLong? (name : String) : Option Key :=
  all.find? (·.long = name)

/-- The option with a letter. -/
def Key.ofLetter? (letter : Char) : Option Key :=
  all.find? (·.letter? = some letter)

/-- What an option's value is called. -/
def ValueOption.valueName : ValueOption → String
  | .diffDir => "DIR"
  | .threshold => "THRESHOLD"
  | .pattern => "PATTERN"
  | .backend => "BACKEND"
  | .compareBin => "PROGRAM"
  | .montageBin => "PROGRAM"
  | .diffBin => "PROGRAM"
  | .logFormat => "LOG_FORMAT"

/-- An option with a value as it stands in messages. -/
def ValueOption.usage (option : ValueOption) : String :=
  "--" ++ (Key.value option).long ++ " <" ++ option.valueName ++ ">"

/-- An option without a value as it stands in messages; dots mark the one that
    may be given again and again. -/
def Switch.usage (switch : Switch) : String :=
  "--" ++ (Key.switch switch).long ++ if switch = .verbose then "..." else ""

/-- A place as it stands in messages. -/
def Place.usage : Place → String
  | .reference => "<REF_DIR>"
  | .render => "<RENDER_DIR>"

/-! ## Errors -/

/-- What is wrong with a command line. -/
inductive UsageError where
  /-- An argument that nothing is known of. -/
  | unexpectedArgument (text : String)
  /-- A value for an option that takes none. -/
  | unexpectedValue (value : String) (switch : Switch)
  /-- No value, or an empty one where it must not be, for the argument of this
      usage. -/
  | missingValue (usage : String)
  /-- An option is given twice. -/
  | repeated (usage : String)
  /-- A value that is not one of those possible. -/
  | invalidChoice (value : String) (option : ValueOption)
  /-- A value that is no number. -/
  | invalidNumber (value : String) (option : ValueOption)
  /-- Not all directories are given. -/
  | missingArguments
  deriving DecidableEq

/-- The text of the error. What was given stands in it in a style of its own. -/
def UsageError.text : UsageError → String
  | unexpectedArgument text => "unexpected argument '" ++ Text.Terminal.styled text ++ "' found"
  | unexpectedValue value switch =>
    "unexpected value '" ++ Text.Terminal.styled value ++ "' for '" ++ switch.usage
      ++ "' found; no more were expected"
  | missingValue usage => "a value is required for '" ++ usage ++ "' but none was supplied"
  | repeated usage => "the argument '" ++ usage ++ "' cannot be used multiple times"
  | invalidChoice value option =>
    "invalid value '" ++ Text.Terminal.styled value ++ "' for '" ++ option.usage ++ "'"
  | invalidNumber value option =>
    "invalid value '" ++ Text.Terminal.styled value ++ "' for '" ++ option.usage ++ "': "
      ++ if value = "" then "cannot parse float from empty string" else "invalid float literal"
  | missingArguments => "the following required arguments were not provided:"

/-- Why there is nothing to act on. -/
inductive Halt where
  /-- Help is asked for. -/
  | help
  /-- The version is asked for. -/
  | version
  /-- The command line is wrong. -/
  | usage (error : UsageError)
  deriving DecidableEq

/-- What the program does, in a line. -/
def about : String :=
  "Compare a tree of reference PNG renders against generated renders"

/-- The name of the program and its version. -/
def versionText : String := "refpng-compare 0.2.0"

/-- The first line of a text. -/
def firstLine (text : String) : String :=
  let line := text.toList.takeWhile (· ≠ '\n')
  String.ofList
    (if line.length < text.length && line.getLast? = some '\r' then line.dropLast else line)

/-- The line said about it. -/
def Halt.message : Halt → String
  | help => about
  | version => versionText
  | usage error =>
    firstLine ("error: " ++ Text.Terminal.visible error.text)

end RenderCheck.CommandLine
