import RenderCheck.Script.Shell

/-! # Programs that work on files

    The programs that scripts find by name: those that copy, move, remove and
    describe files. Each complains about what it cannot do and goes on with
    the next file; one complaint makes it fail. -/

namespace RenderCheck.Script

namespace Shell

/-- Complains in the name of a program, which fails. -/
def fault (s : Shell) (program text : String) : Shell :=
  (s.writeText 2 (program ++ ": " ++ text ++ "\n")).withStatus 1

/-- What the system says about an error. -/
def systemReason : IoError → String
  | .system number => IoError.systemText number
  | error => error.message

/-- Complains that an operand is missing. -/
def faultMissing (s : Shell) (program : String) (text : String := "missing operand") : Shell :=
  s.fault program (text ++ "\nTry '" ++ program ++ " --help' for more information.")

/-- Changes the files, or complains. -/
def changeFiles (s : Shell) (program complaint : String) (change : Except IoError FileTree) :
    Shell :=
  match change with
  | .ok files => { s with files := files }
  | .error error => s.fault program (complaint ++ ": " ++ systemReason error)

/-- The letters of the options, and the operands. Behind two dashes everything
    is an operand. -/
def splitOptions : List String → List Char × List String
  | [] => ([], [])
  | "--" :: rest => ([], rest)
  | argument :: rest =>
    let (letters, operands) := splitOptions rest
    match argument.toList with
    | '-' :: '-' :: name =>
      (match String.ofList name with
        | "recursive" => 'r' :: letters
        | "force" => 'f' :: letters
        | "parents" => 'p' :: letters
        | "symbolic" => 's' :: letters
        | "append" => 'a' :: letters
        | _ => letters, operands)
    | '-' :: c :: more => (c :: more ++ letters, operands)
    | _ => (letters, argument :: operands)

/-- A name as programs show it: in quotes if it is empty or if a shell would
    take it for something else. -/
def shownName (name : String) : String :=
  let special := " !\"#$&'()*;<=>?[\\^|~".toList ++ ['\x60', '\n', '\t']
  if name = "" || name.toList.any special.contains then
    "'" ++ "'\\''".intercalate (name.splitOn "'") ++ "'"
  else name

/-- The name at the end of a path. -/
def baseName (path : String) : String :=
  let kept := (path.toList.reverse.dropWhile (· = '/')).reverse
  if kept = [] then (if path = "" then "" else "/")
  else String.ofList (kept.reverse.takeWhile (· ≠ '/')).reverse

/-- The path without the name at its end. -/
def directoryName (path : String) : String :=
  let kept := path.toList.reverse.dropWhile (· = '/')
  let above := (kept.dropWhile (· ≠ '/')).dropWhile (· = '/')
  if kept.contains '/' then (if above = [] then "/" else String.ofList above.reverse)
  else if kept = [] && path ≠ "" then "/" else "."

/-! ## Reading and removing -/

/-- Takes all that is left to read. -/
def takeUnread (s : Shell) : List UInt8 × Shell :=
  (s.unread 0, s.withUnread 0 [])

/-- Goes on with the content of a file, or of the input for a dash. -/
def withContent (s : Shell) (program path : String) (goOn : Shell → List UInt8 → Shell) : Shell :=
  if path = "-" then
    let (content, s) := s.takeUnread
    goOn s content
  else
    match s.openToRead path with
    | .ok (opened, .input number) =>
      if s.files.isDir (toPath path) then s.fault program (shownName path ++ ": Is a directory")
      else goOn s ((opened.inputs[number]?).getD [])
    | .ok _ =>
      if s.files.isDir (toPath path) then s.fault program (shownName path ++ ": Is a directory")
      else goOn s []
    | .error _ =>
      match s.files.readFile (toPath path) with
      | .ok content => goOn s content
      | .error error => s.fault program (shownName path ++ ": " ++ systemReason error)

/-- The lines of a content, each with its end. -/
def linesOf (content : List UInt8) : List (List UInt8) :=
  content.foldr (fun byte lines =>
    match lines with
    | [] => [[byte]]
    | line :: others => if byte = 10 then [byte] :: line :: others else (byte :: line) :: others) []

/-- Copies files, or the input, to the output; lines can be numbered. -/
def cat (s : Shell) (arguments : List String) : Shell :=
  let (letters, operands) := splitOptions arguments
  let number (content : List UInt8) : List UInt8 :=
    ((linesOf content).zipIdx).flatMap fun (line, index) =>
      let digits := Nat.toDigits 10 (index + 1)
      toBytes (String.ofList (List.replicate (6 - digits.length) ' ' ++ digits ++ ['\t'])) ++ line
  (if operands = [] then ["-"] else operands).foldl (fun s path =>
    s.withContent "cat" path fun s content =>
      let source? := (s.files.locate true (toPath path)).toOption.map (·.location)
      match s.channel? 1 with
      | some (.file location) =>
        if path ≠ "-" && content ≠ [] && source? = some location then
          s.fault "cat" (path ++ ": input file is output file")
        else s.write 1 (if letters.contains 'n' then number content else content)
      | _ => s.write 1 (if letters.contains 'n' then number content else content))
    (s.withStatus 0)

/-- Removes files, and directories with all that lies in them if that is asked
    for. -/
def rm (s : Shell) (arguments : List String) : Shell :=
  let (letters, operands) := splitOptions arguments
  let report (s : Shell) (text : String) : Shell :=
    if letters.contains 'v' && s.status = 0 then s.writeText 1 (text ++ "\n") else s
  let forced := letters.contains 'f'
  let recursive := letters.contains 'r' || letters.contains 'R'
  if operands = [] then (if forced then s.withStatus 0 else s.faultMissing "rm")
  else
    operands.foldl (fun s path =>
      let complaint := "cannot remove '" ++ path ++ "'"
      match s.files.inspect false (toPath path) with
      | .ok .directory =>
        if recursive then s.changeFiles "rm" complaint (s.files.remove (toPath path))
        else if letters.contains 'd' && ((s.files.listDir (toPath path)).toOption.getD []) = [] then
          s.changeFiles "rm" complaint (s.files.remove (toPath path))
        else s.fault "rm" (complaint ++ ": Is a directory")
      | .ok _ =>
        report (s.changeFiles "rm" complaint (s.files.remove (toPath path)))
          ("removed '" ++ path ++ "'")
      | .error error =>
        if forced && (error = .notFound || error = .notADirectory) then s
        else s.fault "rm" (complaint ++ ": " ++ systemReason error)) (s.withStatus 0)

/-- Removes empty directories. -/
def rmdir (s : Shell) (arguments : List String) : Shell :=
  let (_, operands) := splitOptions arguments
  if operands = [] then s.faultMissing "rmdir"
  else
    operands.foldl (fun s path =>
      let complaint := "failed to remove '" ++ path ++ "'"
      match s.files.inspect false (toPath path) with
      | .ok .directory =>
        if ((s.files.listDir (toPath path)).toOption.getD []) = [] then
          s.changeFiles "rmdir" complaint (s.files.remove (toPath path))
        else s.fault "rmdir" (complaint ++ ": Directory not empty")
      | .ok _ => s.fault "rmdir" (complaint ++ ": Not a directory")
      | .error error => s.fault "rmdir" (complaint ++ ": " ++ systemReason error)) (s.withStatus 0)

/-! ## Making -/

/-- Makes directories, and those above them if that is asked for. -/
def mkdir (s : Shell) (arguments : List String) : Shell :=
  let arguments := match arguments with
    | "-m" :: _ :: arguments => arguments
    | arguments => arguments
  let (letters, operands) := splitOptions arguments
  if operands = [] then s.faultMissing "mkdir"
  else
    operands.foldl (fun s path =>
      let complaint := "cannot create directory '" ++ path ++ "'"
      if letters.contains 'p' then
        match s.files.makeDirs (toPath path) with
        | (.ok (), files) => { s with files := files }
        | (.error error, files) =>
          { s with files := files }.fault "mkdir" (complaint ++ ": " ++ systemReason error)
      else s.changeFiles "mkdir" complaint (s.files.makeDir (toPath path))) (s.withStatus 0)

/-- Makes files that do not exist yet. -/
def touch (s : Shell) (arguments : List String) : Shell :=
  let (letters, operands) := splitOptions arguments
  if operands = [] then s.faultMissing "touch" "missing file operand"
  else
    operands.foldl (fun s path =>
      if s.files.pathExists (toPath path) then s
      else if letters.contains 'c' then s
      else s.changeFiles "touch" ("cannot touch '" ++ path ++ "'")
        (s.files.appendFile (toPath path) [])) (s.withStatus 0)

/-- Sets whether files can be run. -/
def chmod (s : Shell) (arguments : List String) : Shell :=
  let (mode, operands) := match arguments with
    | "-R" :: mode :: operands => (mode, operands)
    | mode :: operands => (mode, operands)
    | [] => ("", [])
  if operands = [] then s.faultMissing "chmod"
  else
    let octal := mode.toList.all fun c => '0' ≤ c && c ≤ '7'
    let value := mode.toList.foldl (fun n c => n * 8 + (c.toNat - 48)) 0
    let isExecutable (before : Bool) : Bool :=
      if octal then value % 2 = 1 || value / 8 % 2 = 1 || value / 64 % 2 = 1
      else
        mode.splitOn "," |>.foldl (fun before clause =>
          let letters := clause.toList
          if !letters.contains 'x' then before && !(letters.contains '=')
          else !letters.contains '-') before
    operands.foldl (fun s path =>
      match s.files.locate true (toPath path) with
      | .ok ⟨location, some (.file content executable)⟩ =>
        { s with files := s.files.put location (.file content (isExecutable executable)) }
      | .ok ⟨_, some _⟩ => s
      | .ok ⟨_, none⟩ => s.fault "chmod" ("cannot access '" ++ path ++ "': No such file or directory")
      | .error error => s.fault "chmod" ("cannot access '" ++ path ++ "': " ++ systemReason error))
      (s.withStatus 0)

/-- Makes a link; one that is not symbolic is a copy. -/
def ln (s : Shell) (arguments : List String) : Shell :=
  let (letters, operands) := splitOptions arguments
  match operands with
  | [] => s.faultMissing "ln" "missing file operand"
  | target :: rest =>
    let name := match rest with
      | [] => baseName target
      | path :: _ =>
        if s.files.isDir (toPath path) && !letters.contains 'n' then
          path ++ (if path.endsWith "/" then "" else "/") ++ baseName target
        else path
    let kind := if letters.contains 's' then "symbolic link" else "hard link"
    let files := if letters.contains 'f' then
        match s.files.inspect false (toPath name) with
        | .ok .directory | .error _ => s.files
        | .ok _ => (s.files.remove (toPath name)).toOption.getD s.files
      else s.files
    let node : Except IoError Node :=
      if letters.contains 's' then .ok (.link (toPath target))
      else files.inspect false (toPath target)
    match node, files.locate false (toPath name) with
    | .error error, _ =>
      s.fault "ln" ("failed to access '" ++ target ++ "': " ++ systemReason error)
    | .ok node, .ok ⟨location, none⟩ =>
      { s.withStatus 0 with files := files.put location node }
    | .ok _, .ok ⟨_, some _⟩ =>
      s.fault "ln" ("failed to create " ++ kind ++ " '" ++ name ++ "': File exists")
    | .ok _, .error error =>
      s.fault "ln" ("failed to create " ++ kind ++ " '" ++ name ++ "': " ++ systemReason error)

/-! ## Copying and moving -/

/-- Where a file goes that is copied or moved to a path: into it if it is a
    directory. -/
def destination (s : Shell) (source target : String) : String :=
  if s.files.isDir (toPath target) then
    target ++ (if target.endsWith "/" then "" else "/") ++ baseName source
  else target

/-- The entries at a location and below it, put below another one. -/
def movedEntries (files : FileTree) (source target : Location) : List (Location × Node) :=
  files.entries.filterMap fun entry =>
    if source.isPrefixOf entry.1 then some (target ++ entry.1.drop source.length, entry.2) else none

/-- The files with entries added. -/
def putAll (files : FileTree) (entries : List (Location × Node)) : FileTree :=
  entries.foldl (fun files entry => files.put entry.1 entry.2) files

/-- Copies one file to a path, or a directory if that is asked for. -/
def copyOne (s : Shell) (recursive : Bool) (source target : String) : Shell :=
  let follow := !recursive
  match s.files.locate follow (toPath source), s.files.locate true (toPath target) with
  | .error error, _ => s.fault "cp" ("cannot stat '" ++ source ++ "': " ++ systemReason error)
  | .ok ⟨_, none⟩, _ =>
    s.fault "cp" ("cannot stat '" ++ source ++ "': No such file or directory")
  | .ok ⟨from_, some .directory⟩, place =>
    if !recursive then s.fault "cp" ("-r not specified; omitting directory '" ++ source ++ "'")
    else
      match place with
      | .ok ⟨to_, _⟩ => { s with files := putAll s.files (movedEntries s.files from_ to_) }
      | .error error =>
        s.fault "cp" ("cannot create directory '" ++ target ++ "': " ++ systemReason error)
  | .ok ⟨from_, some node⟩, .ok ⟨to_, before⟩ =>
    if from_ = to_ then
      s.fault "cp" ("'" ++ source ++ "' and '" ++ target ++ "' are the same file")
    else
      match node, before with
      | .file content _, some (.file _ executable) =>
        { s with files := s.files.put to_ (.file content executable) }
      | _, some .directory =>
        s.fault "cp" ("cannot overwrite directory '" ++ target ++ "' with non-directory")
      | node, _ =>
        if target.endsWith "/" then
          s.fault "cp" ("cannot create regular file '" ++ target ++ "': Not a directory")
        else { s with files := s.files.put to_ node }
  | .ok _, .error error =>
    s.fault "cp" ("cannot create regular file '" ++ target ++ "': " ++ systemReason error)

/-- Moves one file or directory to a path. -/
def moveOne (s : Shell) (source target : String) : Shell :=
  match s.files.locate false (toPath source), s.files.locate false (toPath target) with
  | .error error, _ => s.fault "mv" ("cannot stat '" ++ source ++ "': " ++ systemReason error)
  | .ok ⟨_, none⟩, _ =>
    s.fault "mv" ("cannot stat '" ++ source ++ "': No such file or directory")
  | .ok ⟨from_, some node⟩, .ok ⟨to_, before⟩ =>
    if from_ = to_ then
      s.fault "mv" ("'" ++ source ++ "' and '" ++ target ++ "' are the same file")
    else if node.isDirectory && before.any (!·.isDirectory) then
      s.fault "mv" ("cannot overwrite non-directory '" ++ target ++ "' with directory '" ++ source
        ++ "'")
    else if node.isDirectory && from_.isPrefixOf to_ then
      s.fault "mv" ("cannot move '" ++ source ++ "' to a subdirectory of itself, '" ++ target ++ "'")
    else if before.any (·.isDirectory) then
      s.fault "mv" ("cannot overwrite directory '" ++ target ++ "' with non-directory")
    else
      let moved := movedEntries s.files from_ to_
      { s with files := putAll (s.files.delete from_) moved }
  | .ok _, .error error =>
    s.fault "mv" ("cannot move '" ++ source ++ "' to '" ++ target ++ "': " ++ systemReason error)

/-- Does something with each of some files and the last operand. -/
def toLast (s : Shell) (program : String) (operands : List String)
    (act : Shell → String → String → Shell) : Shell :=
  match operands with
  | [] => s.faultMissing program "missing file operand"
  | [one] => s.faultMissing program ("missing destination file operand after '" ++ one ++ "'")
  | operands =>
    let target := operands.getLastD ""
    if 2 < operands.length && !s.files.isDir (toPath target) then
      s.fault program ("target '" ++ target ++ "'" ++
        if s.files.pathExists (toPath target) then ": Not a directory"
        else ": No such file or directory")
    else
      operands.dropLast.foldl (fun s source => act s source (s.destination source target))
        (s.withStatus 0)

/-- Copies files. -/
def cp (s : Shell) (arguments : List String) : Shell :=
  let (letters, operands) := splitOptions arguments
  let recursive := letters.any ['r', 'R', 'a'].contains
  s.toLast "cp" operands fun s source target => s.copyOne recursive source target

/-- Moves files. -/
def mv (s : Shell) (arguments : List String) : Shell :=
  s.toLast "mv" (splitOptions arguments).2 moveOne

/-! ## Describing -/

/-- Lists the names in directories, a line for each. -/
def ls (s : Shell) (arguments : List String) : Shell :=
  let (letters, operands) := splitOptions arguments
  let operands := if operands = [] then ["."] else operands
  let all := letters.contains 'a'
  let almost := all || letters.contains 'A'
  let missing := operands.filter fun path => !(s.files.inspect false (toPath path)).isOk
  let s := missing.foldl (fun s path =>
    (s.fault "ls" ("cannot access '" ++ path ++ "': No such file or directory")).withStatus 2)
    (s.withStatus 0)
  let found := (operands.filter fun path => !missing.contains path).mergeSort (· ≤ ·)
  let (directories, files) := found.partition fun path =>
    s.files.isDir (toPath path) && !letters.contains 'd'
  let s := files.foldl (fun s path => s.writeText 1 (path ++ "\n")) s
  (directories.zipIdx).foldl (fun s (path, index) =>
    let names := ((s.files.listDir (toPath path)).toOption.getD []).map fun entry =>
      ofCharacters entry.1
    let names := (names.filter fun name => almost || name.toList.head? ≠ some '.').mergeSort (· ≤ ·)
    let names := if all then "." :: ".." :: names else names
    let heading := if operands.length = 1 then "" else
      (if index = 0 && files = [] then "" else "\n") ++ path ++ ":\n"
    s.writeText 1 (heading ++ String.join (names.map (· ++ "\n")))) s

/-- Prints the name at the end of a path, perhaps without an ending. -/
def printBaseName (s : Shell) (arguments : List String) : Shell :=
  match if arguments.head? = some "--" then arguments.drop 1 else arguments with
  | [] => s.faultMissing "basename"
  | path :: rest =>
    let name := baseName path
    let kept := match rest.head? with
      | some ending =>
        if ending ≠ name && name.endsWith ending then
          String.ofList (name.toList.take (name.length - ending.length))
        else name
      | none => name
    (s.writeText 1 (kept ++ "\n")).withStatus 0

/-- Prints paths without the names at their ends. -/
def printDirectoryName (s : Shell) (arguments : List String) : Shell :=
  match if arguments.head? = some "--" then arguments.drop 1 else arguments with
  | [] => s.faultMissing "dirname"
  | paths => (s.writeText 1 (String.join (paths.map (directoryName · ++ "\n")))).withStatus 0

/-- Prints where links lead. -/
def readLinks (s : Shell) (arguments : List String) : Shell :=
  let (_, operands) := splitOptions arguments
  operands.foldl (fun s path =>
    match s.files.inspect false (toPath path) with
    | .ok (.link target) => s.writeText 1 (ofCharacters target.text ++ "\n")
    | _ => s.withStatus 1) (s.withStatus 0)

/-- Copies the input to the output and to files. -/
def tee (s : Shell) (arguments : List String) : Shell :=
  let (letters, operands) := splitOptions arguments
  let (content, s) := s.takeUnread
  let s := (s.withStatus 0).write 1 content
  operands.foldl (fun s path =>
    let change :=
      if letters.contains 'a' then s.files.appendFile (toPath path) content
      else s.files.writeFile (toPath path) content
    if path = nullDevice then s else s.changeFiles "tee" path change) s

/-- Says whether two files hold the same bytes. -/
def cmp (s : Shell) (arguments : List String) : Shell :=
  let (letters, operands) := splitOptions arguments
  match operands with
  | left :: right :: _ =>
    let missing := [left, right].any fun path => path ≠ "-" && !s.files.pathExists (toPath path)
    let compared := (s.withStatus 0).withContent "cmp" left fun s a =>
      s.withContent "cmp" right fun s b =>
        let silent := letters.contains 's'
        let same := ((a.zip b).takeWhile fun pair => pair.1 = pair.2).length
        if a = b then s
        else if silent then s.withStatus 1
        else if same = a.length || same = b.length then
          let shorter := if same = a.length then left else right
          let lines := (a.take same).count 10
          s.fault "cmp" ("EOF on " ++ shorter ++
            if same = 0 then " which is empty"
            else " after byte " ++ toString same ++
              if (a.take same).getLast? = some 10 then ", line " ++ toString lines
              else ", in line " ++ toString (lines + 1))
        else
          (s.writeText 1 (left ++ " " ++ right ++ " differ: char " ++ toString (same + 1)
            ++ ", line " ++ toString ((a.take same).count 10 + 1) ++ "\n")).withStatus 1
    if missing then compared.withStatus 2 else compared
  | _ => (s.faultMissing "cmp").withStatus 2

end Shell

end RenderCheck.Script
