/-! # Commands of tool scripts

    Tools can be given as scripts: texts in a small command language. A
    script is a sequence of commands, put together by conditions, choices,
    loops and pipes. -/

namespace RenderCheck.Script

/-- What becomes of the value of a parameter. -/
inductive Use where
  /-- It is taken as it is. -/
  | plain
  /-- The number of its bytes is taken. -/
  | length
  /-- Another text is taken if it is not set, or empty. -/
  | orElse (emptyToo : Bool)
  /-- It is set to another text if it is not set, or empty. -/
  | orAssign (emptyToo : Bool)
  /-- The script fails if it is not set, or empty. -/
  | orFail (emptyToo : Bool)
  /-- Another text is taken if it is set, and not empty. -/
  | ifSet (emptyToo : Bool)
  /-- What matches a pattern is taken off its front. -/
  | withoutFront (longest : Bool)
  /-- What matches a pattern is taken off its end. -/
  | withoutEnd (longest : Bool)
  /-- Nothing is known by that sign. -/
  | malformed
  deriving DecidableEq

/-- Where a stream is led. -/
inductive Direction where
  /-- A file is read. -/
  | read
  /-- A file is written from its beginning. -/
  | write
  /-- A file is written from its end. -/
  | append
  /-- A file is read and written. -/
  | update
  /-- Another stream is used. -/
  | duplicate
  /-- A text in the script with this number is read. -/
  | document (number : Nat)
  deriving DecidableEq

mutual

/-- A part of a word. -/
inductive Piece where
  /-- Text as it is; quoted text is never cut or taken for a pattern. -/
  | literal (text : String) (quoted : Bool)
  /-- The value of a parameter, put to a use with another word. -/
  | parameter (name : String) (use : Use) (argument : List Piece) (quoted : Bool)
  /-- What a command prints. -/
  | output (command : Command) (quoted : Bool)
  /-- The value of an arithmetic expression. -/
  | arithmetic (expression : List Piece) (quoted : Bool)

/-- A stream led elsewhere. -/
inductive Redirection where
  /-- The stream, 0 for the input, 1 for the output, 2 for the error output. -/
  | lead (stream : Nat) (direction : Direction) (target : List Piece)

/-- A command. The number is the line it stands in. -/
inductive Command where
  /-- Nothing. -/
  | skip
  /-- Assignments, or a command by its name with arguments. -/
  | simple (line : Nat) (assignments : List (String × List Piece)) (words : List (List Piece))
      (redirections : List Redirection)
  /-- A command whose streams are led elsewhere. -/
  | redirected (line : Nat) (command : Command) (redirections : List Redirection)
  /-- A command in a shell of its own. -/
  | enclosed (line : Nat) (command : Command)
  /-- A command that is not waited for. -/
  | apart (command : Command)
  /-- Commands each of which reads what the one before prints. -/
  | pipeline (first : Command) (others : List Command)
  /-- One command after the other. -/
  | sequence (first second : Command)
  /-- The second command only if the first succeeds. -/
  | andThen (first second : Command)
  /-- The second command only if the first fails. -/
  | orElse (first second : Command)
  /-- Success and failure exchanged. -/
  | negate (command : Command)
  /-- One of two commands. -/
  | conditional (test positive negative : Command)
  /-- A command as long as a test succeeds, or as long as it fails. -/
  | loop (untilSuccess : Bool) (test body : Command)
  /-- A command for each of some words. -/
  | forEach (line : Nat) (name : String) (words : List (List Piece)) (body : Command)
  /-- The first command one of whose patterns a word matches. -/
  | choice (line : Nat) (subject : List Piece) (arms : List (List (List Piece) × Command))
  /-- A command given a name. -/
  | define (name : String) (body : Command)

end

/-- A word before its parameters are filled in. -/
abbrev Word := List Piece

/-- The text of a word without quotes and parameters. -/
def bareText? : Word → Option String
  | [] => some ""
  | .literal text false :: rest => (bareText? rest).map (text ++ ·)
  | _ => none

end RenderCheck.Script
