import RenderCheck.CommandLine.Run
import RenderCheck.Script.Interpreter

/-! # The program

    Runs the command line on the files listed on standard input, a line for
    each: `d` for a directory, `f` for a file or `x` for a file that can be
    run, a blank, and the path. What the run changed is written back. -/

namespace RenderCheck.Main

/-- Reads lines up to the end of a stream. -/
partial def readLines (stream : IO.FS.Stream) : IO (List String) := do
  let line ← stream.getLine
  if line.isEmpty then return []
  return String.ofList (line.toList.filter (· ≠ '\n')) :: (← readLines stream)

/-- Loads a listed entry. -/
def load (files : FileTree) (line : String) : IO FileTree := do
  let path : Path := ⟨String.ofList (line.toList.drop 2)⟩
  let node : Node ←
    if line.startsWith "d" then pure .directory
    else do
      let content ← IO.FS.readBinFile path.text
      pure (.file content.toList (line.startsWith "x"))
  match files.place path node with
  | .ok files => return files
  | .error error => throw (IO.userError error.message)

/-- The path of a location. -/
def pathOf (location : Location) : String :=
  "/" ++ "/".intercalate location

/-- Writes an entry that is new or has changed. -/
def store (before : FileTree) (entry : Location × Node) : IO Unit := do
  if before.node? entry.1 = some entry.2 then return ()
  match entry.2 with
  | .directory => IO.FS.createDirAll (pathOf entry.1)
  | .file content _ => IO.FS.writeBinFile (pathOf entry.1) (ByteArray.mk content.bytes.toArray)
  | .link _ => return ()

/-- Removes a file that is there no more. -/
def clear (after : FileTree) (entry : Location × Node) : IO Unit := do
  if (after.node? entry.1).isNone && !entry.2.isDirectory then
    IO.FS.removeFile (pathOf entry.1)

/-- The seconds of a number of milliseconds, with two places. -/
def seconds (milliseconds : Nat) : String :=
  let hundredths := (milliseconds + 5) / 10
  let rest := toString (hundredths % 100)
  toString (hundredths / 100) ++ "." ++ (if rest.length < 2 then "0" else "") ++ rest

end RenderCheck.Main

open RenderCheck in
/-- Runs the command line. -/
def main (arguments : List String) : IO UInt32 := do
  let start ← IO.monoMsNow
  let here := ((← IO.currentDir).toString.splitOn "/").filter (· ≠ "")
  let listing ← Main.readLines (← IO.getStdin)
  let files ← listing.foldlM Main.load (FileTree.empty here)
  let directives ← IO.getEnv "RUST_LOG"
  let ending := CommandLine.run Script.toolbox directives arguments files
  files.entries.forM (Main.clear ending.files)
  ending.files.entries.forM (Main.store files)
  let took := Main.seconds ((← IO.monoMsNow) - start)
  for line in ending.log do
    let text := line.text.replace (" in " ++ CommandLine.elapsedMark ++ "s: ")
      (" in " ++ took ++ "s: ")
    IO.eprintln (line.level.text ++ " " ++ text)
  (← IO.getStdout).write (ByteArray.mk ending.output.toArray)
  if ending.complaint ≠ "" then IO.eprintln ending.complaint
  return UInt32.ofNat ending.code
