import RenderCheck.Script.ByteText
import RenderCheck.Script.Command
import RenderCheck.Text.Blank
import RenderCheck.Tool.Program

/-! # The state of a running script

    A script runs with parameters and streams, on files that it may change. A
    stream reads what is left of an input, or writes to an output or to the
    end of a file. -/

namespace RenderCheck.Script

/-- What a stream reads or writes. -/
inductive Channel where
  /-- What is left of an input. -/
  | input (number : Nat)
  /-- An output that is collected. -/
  | output (number : Nat)
  /-- The end of a file. -/
  | file (location : Location)
  /-- There is nothing to read, and what is written is lost. -/
  | nothing
  deriving DecidableEq

/-- What is known of a variable. -/
structure Binding where
  value : Option String := none
  /-- Programs see it. -/
  exported : Bool := false
  /-- It cannot be changed. -/
  fixed : Bool := false
  deriving DecidableEq

/-- Where a script goes on. -/
inductive Flow where
  /-- With the next command. -/
  | onward
  /-- Behind the innermost loops, so many of them. -/
  | leaving (loops : Nat)
  /-- With the next round of a loop, with so many inside of it left. -/
  | renewing (loops : Nat)
  /-- Behind the function. -/
  | returning
  /-- Nowhere. -/
  | ended (status : Tool.Status)
  deriving DecidableEq

/-- The state of a running script. -/
structure Shell where
  files : FileTree
  /-- The name it was started by. -/
  name : String
  /-- The line of the command that is being run. -/
  line : Nat := 1
  /-- The line up to which the script was read. -/
  lineRead : Nat := 1
  /-- The command that runs text of its own, if one does. -/
  runner : Option String := none
  arguments : List String
  /-- The variables. -/
  bindings : List (String × Binding) := []
  /-- What functions have to put back, the innermost first. -/
  scopes : List (List (String × Binding)) := []
  functions : List (String × Command) := []
  /-- The texts of documents in the script by number. -/
  documents : List (Nat × Word) := []
  /-- The number of documents announced so far. -/
  announced : Nat := 0
  /-- The open streams by number. -/
  channels : List (Nat × Channel) := [(0, .input 0), (1, .output 0), (2, .output 1)]
  /-- What is left of each input. -/
  inputs : Array (List UInt8)
  /-- What was written to each output. -/
  outputs : Array (Array UInt8) := .replicate 2 .empty
  /-- Something was written to a stream that is closed. -/
  lost : Bool := false
  /-- The exit code of the last command. -/
  status : Nat := 0
  /-- The exit code of the last command that filled in a word. -/
  innerStatus : Nat := 0
  /-- The loops that are running. -/
  loops : Nat := 0
  flow : Flow := .onward
  /-- The options that are set, by letter. -/
  options : List Char := []
  /-- What is done at the end of the script or at a signal: nothing if it is
      empty. -/
  traps : List (Nat × String) := []
  /-- The signals that came and are still to be answered. -/
  pending : List Nat := []

namespace Shell

/-- The shell with the exit code of a command. -/
def withStatus (s : Shell) (status : Nat) : Shell :=
  { s with status := status }

/-- The shell that goes on elsewhere. -/
def withFlow (s : Shell) (flow : Flow) : Shell :=
  { s with flow := flow }

/-- The script goes on with the next command. -/
def goesOn (s : Shell) : Bool :=
  s.flow = .onward

/-- The shell after the script ended with an exit code. -/
def exit (s : Shell) (code : Nat) : Shell :=
  { s with status := code % 256, flow := .ended (.exited code) }

/-- An option is set. -/
def hasOption (s : Shell) (letter : Char) : Bool :=
  s.options.contains letter

/-! ## Parameters -/

/-- The name by which a script knows its own process. -/
def ownProcess : String := "1"

/-- What is known of a variable. -/
def binding (s : Shell) (name : String) : Binding :=
  (s.bindings.lookup name).getD {}

/-- The shell with something known of a variable. -/
def bind (s : Shell) (name : String) (binding : Binding) : Shell :=
  { s with bindings := (name, binding) :: s.bindings.filter (·.1 ≠ name) }

/-- The shell with a variable set. -/
def assign (s : Shell) (name value : String) : Shell :=
  s.bind name { s.binding name with value := some value }

/-- The characters that cut values into words. -/
def separators (s : Shell) : List Char :=
  ((s.binding "IFS").value.getD " \t\n").toList

/-- What stands between arguments that become one word. -/
def joint (s : Shell) : String :=
  match s.separators with
  | [] => ""
  | c :: _ => c.toString

/-- The value of a parameter, if it is set. -/
def value? (s : Shell) (name : String) : Option String :=
  if name = "#" then some (toString s.arguments.length)
  else if name = "?" then some (toString s.status)
  else if name = "$" then some ownProcess
  else if name = "!" then none
  else if name = "-" then some (String.ofList s.options)
  else if name = "@" then
    if s.arguments = [] then none else some (" ".intercalate s.arguments)
  else if name = "*" then
    if s.arguments = [] then none else some (s.joint.intercalate s.arguments)
  else if name.toList.all Char.isDigit then
    match Nat.ofDigitChars 10 name.toList 0 with
    | 0 => some s.name
    | index + 1 => s.arguments[index]?
  else (s.binding name).value

/-! ## Streams -/

/-- What a stream reads or writes, if it is open. -/
def channel? (s : Shell) (stream : Nat) : Option Channel :=
  s.channels.lookup stream

/-- The shell with a stream led somewhere, or closed. -/
def withChannel (s : Shell) (stream : Nat) (channel : Option Channel) : Shell :=
  let others := s.channels.filter (·.1 ≠ stream)
  { s with channels := match channel with
      | some channel => (stream, channel) :: others
      | none => others }

/-- Writes bytes to a stream; to one that is closed nothing is written. -/
def write (s : Shell) (stream : Nat) (bytes : List UInt8) : Shell :=
  match s.channel? stream with
  | some (.output number) =>
    { s with outputs := s.outputs.modify number (bytes.foldl Array.push) }
  | some (.file location) =>
    match s.files.node? location with
    | some (.file content executable) =>
      { s with files := s.files.put location (.file (content.bytes ++ bytes) executable) }
    | _ => s
  | none => { s with lost := s.lost || bytes ≠ [] }
  | _ => s

/-- Writes text to a stream. -/
def writeText (s : Shell) (stream : Nat) (text : String) : Shell :=
  s.write stream (toBytes text)

/-- What is left to read from a stream. -/
def unread (s : Shell) (stream : Nat) : List UInt8 :=
  match s.channel? stream with
  | some (.input number) => (s.inputs[number]?).getD []
  | _ => []

/-- The shell with so much left to read from a stream. -/
def withUnread (s : Shell) (stream : Nat) (bytes : List UInt8) : Shell :=
  match s.channel? stream with
  | some (.input number) => { s with inputs := s.inputs.modify number fun _ => bytes }
  | _ => s

/-- The shell with a further input. -/
def addInput (s : Shell) (bytes : List UInt8) : Shell × Channel :=
  ({ s with inputs := s.inputs.push bytes }, .input s.inputs.size)

/-- The shell with a further output. -/
def addOutput (s : Shell) : Shell × Nat :=
  ({ s with outputs := s.outputs.push .empty }, s.outputs.size)

/-- What was written to an output. -/
def collected (s : Shell) (number : Nat) : List UInt8 :=
  ((s.outputs[number]?).getD .empty).toList

/-! ## Complaints -/

/-- Complains in the name of a command. -/
def complainAs (s : Shell) (command : Option String) (text : String) : Shell :=
  let origin := match command with
    | some command => command ++ ": "
    | none => ""
  s.writeText 2 (s.name ++ ": " ++ toString s.line ++ ": " ++ origin ++ text ++ "\n")

/-- Complains about the command that is being run. -/
def complain (s : Shell) (text : String) : Shell :=
  s.complainAs s.runner text

/-- Complains, and makes the command fail. -/
def refuse (s : Shell) (text : String) : Shell :=
  (s.complain text).withStatus 2

/-- Complains, and ends the script. -/
def abort (s : Shell) (text : String) : Shell :=
  (s.complain text).exit 2

/-- Complains that the text of the script cannot be read, and ends it. -/
def abortReading (s : Shell) (line : Nat) (text : String) : Shell :=
  { s with line := line }.abort ("Syntax error: " ++ text)

/-! ## Leading streams -/

/-- The file that swallows everything. -/
def nullDevice : String := "/dev/null"

/-- The files that stand for streams. -/
def streamDevices : List (String × Nat) :=
  [("/dev/stdin", 0), ("/dev/stdout", 1), ("/dev/stderr", 2), ("/dev/fd/0", 0), ("/dev/fd/1", 1),
   ("/dev/fd/2", 2)]

/-- Why a file could not be opened; `missing` is said where there is none. -/
def reasonOf (missing : String) : IoError → String
  | .system number =>
    if number = 2 ∨ number = 20 then missing else IoError.systemText number
  | error => error.message

/-- Opens a file to write: one that exists is emptied unless more is to be
    added to its end. -/
def openToWrite (s : Shell) (append : Bool) (target : String) :
    Except String (Shell × Channel) :=
  if target = nullDevice then .ok (s, .nothing)
  else
    match (streamDevices.lookup target).bind s.channel? with
    | some channel => .ok (s, channel)
    | none =>
      let opened : Except IoError (FileTree × Location) := do
        let files ←
          if append then s.files.appendFile (toPath target) []
          else s.files.writeFile (toPath target) .empty
        return (files, (← files.locate true (toPath target)).location)
      match opened with
      | .ok (files, location) => .ok ({ s with files := files }, .file location)
      | .error error =>
        .error ("cannot create " ++ target ++ ": " ++ reasonOf "Directory nonexistent" error)

/-- Opens a file to read. -/
def openToRead (s : Shell) (target : String) : Except String (Shell × Channel) :=
  if target = nullDevice then .ok (s, .nothing)
  else
    match (streamDevices.lookup target).bind s.channel? with
    | some channel => .ok (s, channel)
    | none =>
      match s.files.readFile (toPath target) with
      | .ok content => .ok (s.addInput content)
      | .error error =>
        if s.files.isDir (toPath target) then .ok (s, .nothing)
        else .error ("cannot open " ++ target ++ ": " ++ reasonOf "No such file" error)

/-- Leads a stream elsewhere, or says why that cannot be done. -/
def lead (s : Shell) (stream : Nat) (direction : Direction) (target : String) :
    Except String Shell :=
  match direction with
  | .read | .update =>
    (s.openToRead target).map fun (s, channel) => s.withChannel stream (some channel)
  | .write =>
    (s.openToWrite false target).map fun (s, channel) => s.withChannel stream (some channel)
  | .append =>
    (s.openToWrite true target).map fun (s, channel) => s.withChannel stream (some channel)
  | .document _ =>
    let (s, channel) := s.addInput (toBytes target)
    .ok (s.withChannel stream (some channel))
  | .duplicate =>
    match target.toList with
    | ['-'] => .ok (s.withChannel stream none)
    | [digit] =>
      match s.channel? (digit.toNat - 48) with
      | some channel => .ok (s.withChannel stream (some channel))
      | none => .error (target ++ ": Bad file descriptor")
    | _ => .error "Bad fd number"

end Shell

end RenderCheck.Script
