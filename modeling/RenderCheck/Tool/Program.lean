import RenderCheck.FileTree.Operations
import RenderCheck.Text.Utf8
import RenderCheck.Tool.Status

/-! # External programs

    A program is started by name and runs with arguments and an input; it
    ends with a status, and what it wrote to its two outputs. What programs
    there are and what they do to the files is given by a toolbox. -/

namespace RenderCheck.Tool

/-- What a program is run with. -/
structure Launch where
  program : String
  arguments : List String
  /-- The bytes on its standard input. -/
  input : List UInt8 := []
  deriving DecidableEq

/-- What is left of a program that ran. -/
structure Finished where
  status : Status
  /-- The bytes on its standard output. -/
  output : List UInt8
  /-- The bytes on its standard error output. -/
  errors : List UInt8
  deriving DecidableEq

/-- The text of both outputs, one after the other. Each is read by itself, so
    that a character cut off at the end of the first is not completed by the
    second. -/
def Finished.combinedOutput (finished : Finished) : String :=
  String.ofList (Text.decodeLossy finished.output ++ Text.decodeLossy finished.errors)

/-- The programs of a system. -/
structure Toolbox where
  /-- Whether a program can be started with its arguments, and if not, why. -/
  start : FileTree → Launch → Except IoError Unit
  /-- What a started program leaves behind. -/
  perform : FileTree → Launch → Finished × FileTree

end RenderCheck.Tool
