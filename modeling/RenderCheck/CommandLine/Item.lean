import RenderCheck.CommandLine.Option

/-! # Items of a command line

    The arguments are first sorted into items: options with their values,
    options that stand for themselves, and directories. A value is part of the
    argument of its option (`--name=value`, `-xvalue`, `-x=value`) or the
    argument after it. After the argument `--` all are directories. -/

namespace RenderCheck.CommandLine

/-- A part of a command line. -/
inductive Item where
  /-- An option that stands for itself. -/
  | switch (switch : Switch)
  /-- An option with the value that was part of its argument. -/
  | attached (option : ValueOption) (value : String)
  /-- An option with the next argument as its value, if that can be one. -/
  | detached (option : ValueOption) (value : Option String)
  /-- A directory. -/
  | directory (place : Place) (text : String)
  /-- An argument that is wrong whatever the others are. -/
  | refused (error : UsageError)
  deriving DecidableEq

/-- Whether the item is looked at only once the next argument is known. -/
def Item.waits : Item → Bool
  | detached _ _ => true
  | directory _ _ => true
  | _ => false

namespace Item

/-- The argument names options. A dash alone is a text like others. -/
def namesOptions (argument : String) : Bool :=
  match argument.toList with
  | '-' :: _ :: _ => true
  | _ => false

/-- The items of an option given by its long name and perhaps a value; or the
    option, if its value is yet to come. -/
def ofLong (name : String) (value : Option String) : List Item × Option ValueOption :=
  match Key.ofLong? name, value with
  | none, _ => ([.refused (.unexpectedArgument ("--" ++ name))], none)
  | some (.value option), some value => ([.attached option value], none)
  | some (.value option), none => ([], some option)
  | some (.switch key), some value => ([.refused (.unexpectedValue value key)], none)
  | some (.switch key), none => ([.switch key], none)

/-- The items of options given by letters; the last one may have a value, or
    have its value yet to come. -/
def ofLetters : List Char → List Item × Option ValueOption
  | [] => ([], none)
  | letter :: rest =>
    match Key.ofLetter? letter with
    | none => ([.refused (.unexpectedArgument ("-" ++ letter.toString))], none)
    | some (.switch key) =>
      let (items, awaiting) := ofLetters rest
      (.switch key :: items, awaiting)
    | some (.value option) =>
      match rest with
      | [] => ([], some option)
      | '=' :: value => ([.attached option (String.ofList value)], none)
      | value => ([.attached option (String.ofList value)], none)

/-- The items of an argument that names options. -/
def ofArgument (argument : String) : List Item × Option ValueOption :=
  match argument.toList with
  | '-' :: '-' :: text =>
    ofLong (String.ofList (text.takeWhile (· ≠ '=')))
      (match text.dropWhile (· ≠ '=') with
        | [] => none
        | _ :: value => some (String.ofList value))
  | _ :: letters => ofLetters letters
  | [] => ([], none)

/-- The item of a text at one of the places that are left, and those left after
    it. -/
def ofText : List Place → String → Item × List Place
  | [], text => (.refused (.unexpectedArgument text), [])
  | place :: places, text => (.directory place text, places)

/-- The items of texts. -/
def ofTexts : List Place → List String → List Item
  | _, [] => []
  | places, text :: texts =>
    let (item, places) := ofText places text
    item :: ofTexts places texts

/-- Sorts arguments into items. -/
def ofArgumentsAt : List Place → List String → List Item
  | _, [] => []
  | places, argument :: rest =>
    if argument = "--" then ofTexts places rest
    else if namesOptions argument then
      match ofArgument argument, rest with
      | (items, none), rest => items ++ ofArgumentsAt places rest
      | (items, some option), [] => items ++ [.detached option none]
      | (items, some option), next :: after =>
        if namesOptions next then
          items ++ .detached option none :: ofArgumentsAt places (next :: after)
        else items ++ .detached option (some next) :: ofArgumentsAt places after
    else
      let (item, places) := ofText places argument
      item :: ofArgumentsAt places rest

/-- The items of a command line. -/
def ofArguments : List String → List Item :=
  ofArgumentsAt [.reference, .render]

end Item

end RenderCheck.CommandLine
