import RenderCheck.Binary64.Printer
import RenderCheck.Glob.Reader
import RenderCheck.IoError
import RenderCheck.Text.Blank
import RenderCheck.Text.Quoted
import RenderCheck.Tool.Status

/-! # Errors

    What ends a comparison. Missing counterparts and metrics above the
    threshold are no errors: they are outcomes, and a run goes on after them.
    Every error has a message and a chain of causes, each a text of its own. -/

namespace RenderCheck

/-! ## Faults of the configuration -/

/-- What is wrong with a configuration or with what it is applied to. -/
inductive ConfigFault where
  /-- The threshold is negative or no finite number. -/
  | threshold (value : Binary64)
  /-- The image pattern is no pattern. -/
  | imagePattern (pattern : String) (error : Glob.SyntaxError)
  /-- The name of a program is empty. -/
  | emptyProgram
  /-- The reference root is not a directory. -/
  | noReferenceDir (dir : Path)
  /-- The diff path is a file. -/
  | diffDirIsFile (dir : Path)
  /-- A reference does not lie under the reference root. -/
  | outsideRoot (reference root : Path)
  /-- A fault with a message of its own. -/
  | custom (message : String)
  deriving DecidableEq

/-- What a message says about the fault. -/
def ConfigFault.text : ConfigFault → String
  | threshold value =>
    "Threshold must be a finite, non-negative number (got " ++ value.text ++ ")"
  | imagePattern pattern error =>
    "Invalid image pattern '" ++ pattern ++ "': " ++ error.message
  | emptyProgram => "Program names must not be empty"
  | noReferenceDir dir =>
    "Reference directory does not exist or is not a directory: " ++ dir.text
  | diffDirIsFile dir => "Diff output path exists and is a file, not a directory: " ++ dir.text
  | outsideRoot reference root => reference.text ++ " is not inside " ++ root.text
  | custom message => message

/-! ## Faults of images -/

/-- Why an image file could not be read or written. -/
inductive ImageFault where
  /-- The file could not be read or written. -/
  | io (error : IoError)
  /-- The file name has no extension to tell the format by. -/
  | unknownFormat
  /-- The extension is that of no image format. -/
  | unknownExtension (extension : String)
  /-- The format is known but cannot be read. -/
  | unsupportedFormat (format : String)
  /-- The format can be read, but not with this feature. -/
  | unsupportedFeature (format feature : String)
  /-- The format can be read, but not with pixels of so many bits. -/
  | unsupportedColor (format : String) (bits : Nat)
  /-- The file ends too early. -/
  | endOfData (message : String)
  /-- The contents are not in the format; the fault is told in words. -/
  | malformed (format fault : String)
  deriving DecidableEq

/-- What a message says about the fault. -/
def ImageFault.text : ImageFault → String
  | io error => error.message
  | unknownFormat => "The image format could not be determined"
  | unknownExtension extension =>
    "The file extension `." ++ Text.quoted extension
      ++ "` was not recognized as an image format"
  | unsupportedFormat format => "The image format " ++ format ++ " is not supported"
  | unsupportedFeature format feature =>
    "The decoder for " ++ format ++ " does not support the format features " ++ feature
  | unsupportedColor format bits =>
    "The encoder or decoder for " ++ format ++ " does not support the color type \x60Unknown("
      ++ toString bits ++ ")\x60"
  | endOfData message => message
  | malformed format fault => "Format error decoding " ++ format ++ ": " ++ fault

/-! ## Errors of a comparison -/

/-- Why a comparison ended early. -/
inductive CompareError where
  /-- A file operation failed. -/
  | io (error : IoError)
  /-- A directory of the reference tree could not be read. -/
  | walk (path : Path) (error : IoError)
  /-- An image could not be read or written. -/
  | image (fault : ImageFault)
  /-- A program could not be started. -/
  | spawn (program : String) (error : IoError)
  /-- A program ended with a status that is no answer. -/
  | toolFailed (program : String) (status : Tool.Status) (output : String)
  /-- A tool's output holds no metric. -/
  | metricParse (output : String)
  /-- The images of a pair differ in size; sizes are width and height. -/
  | sizeMismatch (path : Path) (reference generated : Nat × Nat)
  /-- The configuration cannot be used. -/
  | invalidConfig (fault : ConfigFault)
  deriving DecidableEq

namespace CompareError

/-- The failure of a tool, with what it printed trimmed. -/
def ofTool (program : String) (status : Tool.Status) (output : String) : CompareError :=
  .toolFailed program status (String.ofList (Text.trim output.toList))

/-- A size as width and height. -/
def sizeText (size : Nat × Nat) : String :=
  toString size.1 ++ "x" ++ toString size.2

/-- The place where a walk failed, and why. -/
def walkText (path : Path) (error : IoError) : String :=
  "IO error for operation on " ++ path.text ++ ": " ++ error.message

/-- The text of the error. -/
def message : CompareError → String
  | io error => "IO error: " ++ error.message
  | walk path error => "Directory walk error: " ++ walkText path error
  | image fault => "Image processing error: " ++ fault.text
  | spawn program error => "Failed to run '" ++ program ++ "': " ++ error.message
  | toolFailed program status output =>
    "'" ++ program ++ "' failed (" ++ status.text ++ "): " ++ output
  | metricParse output =>
    "Could not extract metric from comparison output: " ++ Text.quoted output
  | sizeMismatch path reference generated =>
    "Image sizes differ for " ++ path.text ++ ": reference " ++ sizeText reference
      ++ ", generated " ++ sizeText generated
  | invalidConfig fault => "Invalid configuration: " ++ fault.text

/-- The causes behind the error, the nearest first. -/
def causes : CompareError → List String
  | io error => [error.message]
  | walk path error => [walkText path error, error.message]
  | image (.malformed format fault) => [(ImageFault.malformed format fault).text, fault]
  | image fault => [fault.text]
  | spawn _ error => [error.message]
  | _ => []

end CompareError

end RenderCheck
