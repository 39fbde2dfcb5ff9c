import RenderCheck.Script.FileUtility
import RenderCheck.Script.Printing

/-! # Programs that work on texts

    The programs that scripts find by name: those that take parts of their
    input, count, sort and change it, and those that make texts up. -/

namespace RenderCheck.Script

namespace Shell

/-! ## Parts of the input -/

/-- An amount that an option asks for: its sign, and the number with a unit. -/
def readAmount? (text : String) : Option (Option Char × Nat) :=
  let (sign, digits) := match text.toList with
    | '+' :: rest => (some '+', rest)
    | '-' :: rest => (some '-', rest)
    | rest => (none, rest)
  let number := digits.takeWhile Char.isDigit
  let unit := match digits.drop number.length with
    | [] => some 1
    | ['b'] => some 512
    | ['k'] | ['K'] => some 1024
    | ['k', 'B'] => some 1000
    | ['M'] => some 1048576
    | _ => none
  if number = [] then none
  else unit.map fun unit => (sign, Nat.ofDigitChars 10 number 0 * unit)

/-- What `head` and `tail` are asked for: bytes or lines, how many, and the
    files. -/
structure Share where
  bytes : Bool := false
  sign : Option Char := none
  count : Nat := 10
  quiet : Bool := false
  operands : List String := []

/-- The share with an amount of bytes or lines; else the text that is none. -/
def Share.withAmount (share : Share) (bytes : Bool) (text : String) : Except String Share :=
  match readAmount? text with
  | some (sign, count) => .ok { share with bytes := bytes, sign := sign, count := count }
  | none => .error text

/-- Reads the arguments of `head` and `tail`. -/
def readShare : Share → List String → Except String Share
  | share, [] => .ok share
  | share, "-q" :: rest => readShare { share with quiet := true } rest
  | share, "--" :: rest => .ok { share with operands := share.operands ++ rest }
  | share, "-n" :: value :: rest => do readShare (← share.withAmount false value) rest
  | share, "-c" :: value :: rest => do readShare (← share.withAmount true value) rest
  | share, argument :: rest => do
    match argument.toList with
    | '-' :: c :: more =>
      let text := if c.isDigit then c :: more else more
      readShare (← share.withAmount (c = 'c') (String.ofList text)) rest
    | _ => readShare { share with operands := share.operands ++ [argument] } rest

/-- The first of some things, or all but the last. -/
def firstOf {α : Type} (share : Share) (items : List α) : List α :=
  if share.sign = some '-' then items.take (items.length - share.count) else items.take share.count

/-- The last of some things, or all from one on. -/
def lastOf {α : Type} (share : Share) (items : List α) : List α :=
  if share.sign = some '+' then items.drop (share.count - 1)
  else items.drop (items.length - share.count)

/-- The device that gives zeros. -/
def zeroDevice : String := "/dev/zero"

/-- Prints a part of each file; with several, under their names. -/
def printShare (s : Shell) (program : String) (arguments : List String)
    (part : Share → List UInt8 → List UInt8) : Shell :=
  match readShare {} arguments with
  | .error text => s.fault program ("invalid number of lines: '" ++ text ++ "'")
  | .ok share =>
    let operands := if share.operands = [] then ["-"] else share.operands
    (operands.zipIdx).foldl (fun s (path, index) =>
      let heading :=
        if operands.length = 1 || share.quiet then ""
        else (if index = 0 then "" else "\n") ++ "==> " ++
          (if path = "-" then "standard input" else path) ++ " <==\n"
      if path = zeroDevice then (s.writeText 1 heading).write 1 (List.replicate share.count 0)
      else
        match path, s.files.isDir (toPath path) with
        | "-", _ =>
          let content := s.unread 0
          let taken := part share content
          let s := s.withUnread 0 (if program = "head" then content.drop taken.length else [])
          (s.writeText 1 heading).write 1 taken
        | path, true =>
          (s.writeText 1 heading).fault program ("error reading '" ++ path ++ "': Is a directory")
        | path, false =>
          match s.files.readFile (toPath path) with
          | .ok content => (s.writeText 1 heading).write 1 (part share content)
          | .error error =>
            if path = nullDevice then s
            else s.fault program
              ("cannot open '" ++ path ++ "' for reading: " ++ systemReason error))
      (s.withStatus 0)

/-- Prints the beginning of files. -/
def head (s : Shell) (arguments : List String) : Shell :=
  s.printShare "head" arguments fun share content =>
    if share.bytes then firstOf share content else (firstOf share (linesOf content)).flatten

/-- Prints the end of files. -/
def tail (s : Shell) (arguments : List String) : Shell :=
  s.printShare "tail" arguments fun share content =>
    if share.bytes then lastOf share content else (lastOf share (linesOf content)).flatten

/-! ## Counting -/

/-- The number of words in a content. -/
def countWords (content : List UInt8) : Nat :=
  let isGap (byte : UInt8) : Bool := byte = 32 || (9 ≤ byte && byte ≤ 13)
  (content.foldl (fun (state : Nat × Bool) byte =>
    if isGap byte then (state.1, false)
    else (if state.2 then state.1 else state.1 + 1, true)) (0, false)).1

/-- A number with blanks in front of it. -/
def padLeft (width value : Nat) : String :=
  let digits := Nat.toDigits 10 value
  String.ofList (List.replicate (width - digits.length) ' ' ++ digits)

/-- Counts lines, words and bytes. -/
def wc (s : Shell) (arguments : List String) : Shell :=
  let (letters, operands) := splitOptions arguments
  let all := letters = []
  let kinds : List (List UInt8 → Nat) :=
    (if all || letters.contains 'l' then [List.count 10] else []) ++
    (if all || letters.contains 'w' then [countWords] else []) ++
    (if letters.contains 'm' then [List.length] else []) ++
    (if all || letters.contains 'c' then [List.length] else [])
  let sources := if operands = [] then ["-"] else operands
  let regular := operands.filter fun path => s.files.isFile (toPath path)
  let total := regular.foldl (fun n path =>
    n + ((s.files.readFile (toPath path)).toOption.getD []).length) 0
  let width :=
    if kinds.length = 1 && sources.length = 1 then 1
    else if regular.length < sources.length then 7
    else (Nat.toDigits 10 total).length
  let line (name : Option String) (counts : List Nat) : String :=
    " ".intercalate (counts.map (padLeft width)) ++ (match name with
      | some name => " " ++ name
      | none => "") ++ "\n"
  let (s, sums) := sources.foldl (fun (s, sums) path =>
    let name := if operands = [] then none else some path
    let counted := s.withContent "wc" path fun s content =>
      s.writeText 1 (line name (kinds.map (· content)))
    let counted := if s.files.isDir (toPath path) then
      counted.writeText 1 (line name (kinds.map fun _ => 0)) else counted
    let counts := match s.files.readFile (toPath path) with
      | .ok content => kinds.map (· content)
      | .error _ => kinds.map fun _ => 0
    (counted, List.zipWith (· + ·) sums counts)) (s.withStatus 0, kinds.map fun _ => 0)
  if 1 < sources.length then s.writeText 1 (line (some "total") sums) else s

/-! ## Changing lines -/

/-- The content of all operands, or of the input. -/
def allContent (s : Shell) (program : String) (operands : List String) : Shell × List UInt8 :=
  let operands := if operands = [] then ["-"] else operands
  let (s, number) := (s.withStatus 0).addOutput
  let before := s.channel? 1
  let s := operands.foldl (fun s path =>
    s.withContent program path fun s content => s.write 1 content)
    (s.withChannel 1 (some (.output number)))
  (s.withChannel 1 before, s.collected number)

/-- The lines of a content without their ends. -/
def bareLines (content : List UInt8) : List (List UInt8) :=
  (linesOf content).map fun line => if line.getLast? = some 10 then line.dropLast else line

/-- Prints lines. -/
def writeLines (s : Shell) (lines : List (List UInt8)) : Shell :=
  s.write 1 (lines.flatMap (· ++ [10]))

/-- The whole number at the front of a line. -/
def leadingNumber (line : List UInt8) : Int :=
  let text := (ofBytes line).toList.dropWhile fun c => c = ' ' || c = '\t'
  let (negative, digits) := match text with
    | '-' :: rest => (true, rest)
    | rest => (false, rest)
  let value : Int := Nat.ofDigitChars 10 (digits.takeWhile Char.isDigit) 0
  if negative then -value else value

/-- Sorts lines. -/
def sort (s : Shell) (arguments : List String) : Shell :=
  let (letters, operands) := splitOptions arguments
  let (s, content) := s.allContent "sort" operands
  let numeric := letters.contains 'n'
  let before (a b : List UInt8) : Bool :=
    if numeric && leadingNumber a ≠ leadingNumber b then leadingNumber a < leadingNumber b
    else ofBytes a ≤ ofBytes b
  let sorted := (bareLines content).mergeSort before
  let sorted := if letters.contains 'r' then sorted.reverse else sorted
  let same (a b : List UInt8) : Bool :=
    if numeric then leadingNumber a = leadingNumber b else a = b
  s.writeLines (if letters.contains 'u' then
    (sorted.splitBy same).filterMap List.head? else sorted)

/-- Prints lines that are the same next to each other once. -/
def uniq (s : Shell) (arguments : List String) : Shell :=
  let (letters, operands) := splitOptions arguments
  let (s, content) := s.allContent "uniq" operands
  let groups := (bareLines content).splitBy (· = ·)
  let groups := groups.filter fun group =>
    (!letters.contains 'd' || 1 < group.length) && (!letters.contains 'u' || group.length = 1)
  s.writeLines (groups.filterMap fun group => group.head?.map fun line =>
    if letters.contains 'c' then toBytes (padLeft 7 group.length ++ " ") ++ line else line)

/-- Prints lines with their bytes, or all lines, the other way around. -/
def reversed (s : Shell) (program : String) (arguments : List String) : Shell :=
  let (_, operands) := splitOptions arguments
  let (s, content) := s.allContent program operands
  if program = "tac" then s.write 1 (linesOf content).reverse.flatten
  else
    s.write 1 ((linesOf content).flatMap fun line =>
      if line.getLast? = some 10 then line.dropLast.reverse ++ [10] else line.reverse)

/-- The places that a list of them names, each from one on, or from one to
    another. -/
def readPlaces (text : String) : List (Nat × Option Nat) :=
  (text.splitOn ",").map fun part =>
    match part.splitOn "-" with
    | [one] => (one.toNat?.getD 0, one.toNat?)
    | first :: last :: _ => (first.toNat?.getD 1, last.toNat?)
    | [] => (0, some 0)

/-- What `cut` is asked for: the places, whether they are fields, what divides
    these, and the files. -/
structure Cutting where
  places : String := "1-"
  fields : Bool := false
  delimiter : Char := '\t'
  /-- Lines without a divider are left out. -/
  onlyDivided : Bool := false
  operands : List String := []

/-- The cutting with the value of an option. -/
def Cutting.withValue (cutting : Cutting) (letter : Char) (value : String) : Cutting :=
  if letter = 'd' then { cutting with delimiter := value.toList.head?.getD '\t' }
  else { cutting with fields := letter = 'f', places := value }

/-- Reads the arguments of `cut`. -/
def readCutting : Cutting → List String → Cutting
  | cutting, [] => cutting
  | cutting, "-s" :: rest => readCutting { cutting with onlyDivided := true } rest
  | cutting, "-d" :: value :: rest => readCutting (cutting.withValue 'd' value) rest
  | cutting, "-f" :: value :: rest => readCutting (cutting.withValue 'f' value) rest
  | cutting, "-c" :: value :: rest => readCutting (cutting.withValue 'c' value) rest
  | cutting, "-b" :: value :: rest => readCutting (cutting.withValue 'b' value) rest
  | cutting, argument :: rest =>
    match argument.toList with
    | '-' :: letter :: value => readCutting (cutting.withValue letter (String.ofList value)) rest
    | _ => readCutting { cutting with operands := cutting.operands ++ [argument] } rest

/-- Prints fields or bytes of lines. -/
def cut (s : Shell) (arguments : List String) : Shell :=
  let cutting := readCutting {} arguments
  let places := readPlaces cutting.places
  let isIn (index : Nat) : Bool := places.any fun (first, last) =>
    first ≤ index + 1 && last.all (index + 1 ≤ ·)
  let (s, content) := s.allContent "cut" cutting.operands
  let delimiter := cutting.delimiter.toString
  s.writeLines ((bareLines content).filterMap fun line =>
    if cutting.fields then
      let parts := (ofBytes line).splitOn delimiter
      if parts.length = 1 then (if cutting.onlyDivided then none else some line)
      else some (toBytes (delimiter.intercalate
        ((parts.zipIdx).filterMap fun (part, index) => if isIn index then some part else none)))
    else some ((line.zipIdx).filterMap fun (byte, index) =>
      if isIn index then some byte else none))

/-! ## Replacing characters -/

/-- The characters that a set names; the fuel is its length. -/
def readCharacters : (fuel : Nat) → List Char → List Char
  | 0, _ => []
  | _, [] => []
  | fuel + 1, '\\' :: rest =>
    let (c, rest) := match rest with
      | '\\' :: rest => ('\\', rest)
      | c :: others => if (escapeAt rest).1 = '\\' then (c, others) else escapeAt rest
      | [] => ('\\', [])
    c :: readCharacters fuel rest
  | fuel + 1, '[' :: ':' :: rest =>
    let name := String.ofList (rest.takeWhile (· ≠ ':'))
    let ranges : List (String × List (Nat × Nat)) :=
      [("alnum", [(48, 57), (65, 90), (97, 122)]), ("alpha", [(65, 90), (97, 122)]),
       ("blank", [(9, 9), (32, 32)]), ("digit", [(48, 57)]), ("lower", [(97, 122)]),
       ("space", [(9, 13), (32, 32)]), ("upper", [(65, 90)]), ("print", [(32, 126)]),
       ("cntrl", [(0, 31), (127, 127)]), ("punct", [(33, 47), (58, 64), (91, 96), (123, 126)]),
       ("xdigit", [(48, 57), (65, 70), (97, 102)]), ("graph", [(33, 126)])]
    match ranges.lookup name with
    | some ranges =>
      (ranges.flatMap fun (first, last) =>
        (List.range (last + 1 - first)).map fun n => Char.ofNat (first + n))
        ++ readCharacters fuel (rest.drop (name.length + 2))
    | none => '[' :: readCharacters fuel (':' :: rest)
  | fuel + 1, low :: '-' :: high :: rest =>
    ((List.range (high.toNat + 1 - low.toNat)).map fun n => Char.ofNat (low.toNat + n))
      ++ readCharacters fuel rest
  | fuel + 1, c :: rest => c :: readCharacters fuel rest

/-- A text with characters next to each other left once if they are the same
    and in a set. -/
def squeeze (inSet : Char → Bool) : List Char → List Char
  | [] => []
  | [c] => [c]
  | c :: d :: rest =>
    if c = d && inSet c then squeeze inSet (d :: rest) else c :: squeeze inSet (d :: rest)

/-- Replaces, removes or squeezes characters. -/
def tr (s : Shell) (arguments : List String) : Shell :=
  let (letters, operands) := splitOptions arguments
  let sets := operands.map fun text => readCharacters (text.length + 1) text.toList
  let complement := letters.contains 'c' || letters.contains 'C'
  let first := (sets[0]?).getD []
  let inFirst (c : Char) : Bool := first.contains c != complement
  let (content, s) := s.takeUnread
  let text := (ofBytes content).toList
  let result :=
    if letters.contains 'd' then
      let kept := text.filter (!inFirst ·)
      if letters.contains 's' then squeeze ((sets[1]?).getD []).contains kept else kept
    else
      match sets[1]? with
      | none => squeeze inFirst text
      | some second =>
        let last := second.getLast?.getD ' '
        let replace (c : Char) : Char :=
          if complement then (if inFirst c then last else c)
          else
            match first.reverse.idxOf? c with
            | some index => (second[first.length - 1 - index]?).getD last
            | none => c
        let replaced := text.map replace
        if letters.contains 's' then squeeze second.contains replaced else replaced
  (s.withStatus 0).writeText 1 (String.ofList result)

/-! ## Making texts up -/

/-- Prints whole numbers in steps. -/
def seq (s : Shell) (arguments : List String) : Shell :=
  let (separator, numbers) := match arguments with
    | "-s" :: separator :: numbers => (separator, numbers)
    | first :: numbers =>
      if first.startsWith "-s" then (String.ofList (first.toList.drop 2), numbers)
      else ("\n", arguments)
    | [] => ("\n", [])
  let values := numbers.map fun text => (leadingNumber (toBytes text))
  let (first, step, last) := match values with
    | [last] => (1, 1, last)
    | [first, last] => (first, 1, last)
    | first :: step :: last :: _ => (first, step, last)
    | [] => (1, 1, 0)
  let count := if step = 0 then 0 else ((last - first).tdiv step + 1).toNat
  let count := if (0 < step && last < first) || (step < 0 && first < last) then 0 else count
  let texts := (List.range count).map fun n : Nat => toString (first + step * (n : Int))
  (s.writeText 1 (if texts = [] then "" else separator.intercalate texts ++ "\n")).withStatus 0

/-- Prints the same line again and again, as often as anyone is likely to
    read. -/
def yes (s : Shell) (arguments : List String) : Shell :=
  let line := toBytes (if arguments = [] then "y\n" else " ".intercalate arguments ++ "\n")
  (s.write 1 (List.replicate 32768 line).flatten).withStatus 0

/-- Copies blocks of bytes. -/
def dd (s : Shell) (arguments : List String) : Shell :=
  let value? (name : String) : Option String :=
    arguments.findSome? fun argument =>
      if argument.startsWith (name ++ "=") then
        some (String.ofList (argument.toList.drop (name.length + 1)))
      else none
  let amount? (name : String) : Option Nat :=
    (value? name).bind fun text => (readAmount? text).map Prod.snd
  let size := (amount? "bs").getD 512
  let limit := (amount? "count").map (· * size)
  let skipped := ((amount? "skip").getD 0) * size
  let (s, content) := match value? "if" with
    | none =>
      let content := s.unread 0
      (s.withUnread 0 (match limit with
        | some limit => content.drop limit
        | none => []), content)
    | some path =>
      if path = zeroDevice then (s, List.replicate (limit.getD 0 + skipped) 0)
      else s.allContent "dd" [path]
  let content := content.drop skipped
  let content := match limit with
    | some limit => content.take limit
    | none => content
  let s := match value? "of" with
    | none => s.write 1 content
    | some path => s.changeFiles "dd" ("failed to open '" ++ path ++ "'")
      (s.files.writeFile (toPath path) content)
  s.withStatus 0

/-- Prints the value of an expression given as words. -/
def expr (s : Shell) (arguments : List String) : Shell :=
  let number (text : String) : Option Int := text.toInt?
  let result : Option String :=
    match arguments with
    | [one] => some one
    | ["length", text] => some (toString text.length)
    | [left, operator, right] =>
      match number left, number right with
      | some a, some b =>
        match operator with
        | "+" => some (toString (a + b))
        | "-" => some (toString (a - b))
        | "*" => some (toString (a * b))
        | "/" => if b = 0 then none else some (toString (a.tdiv b))
        | "%" => if b = 0 then none else some (toString (a.tmod b))
        | "=" => some (if a = b then "1" else "0")
        | "!=" => some (if a ≠ b then "1" else "0")
        | "<" => some (if a < b then "1" else "0")
        | "<=" => some (if a ≤ b then "1" else "0")
        | ">" => some (if b < a then "1" else "0")
        | ">=" => some (if b ≤ a then "1" else "0")
        | _ => none
      | _, _ =>
        match operator with
        | "=" => some (if left = right then "1" else "0")
        | "!=" => some (if left ≠ right then "1" else "0")
        | _ => none
    | _ => none
  let zeroDivisor := match arguments with
    | [_, operator, right] => (operator = "/" || operator = "%") && number right = some 0
    | _ => false
  match result with
  | none => (s.fault "expr" (if zeroDivisor then "division by zero" else "syntax error")).withStatus 2
  | some text =>
    (s.writeText 1 (text ++ "\n")).withStatus (if text = "" || text = "0" then 1 else 0)

/-! ## All together -/

/-- Runs a program that is found by name. -/
def runUtility? (s : Shell) (program : String) (arguments : List String) : Option Shell :=
  match program with
  | "cat" => some (s.cat arguments)
  | "rm" => some (s.rm arguments)
  | "rmdir" => some (s.rmdir arguments)
  | "mkdir" => some (s.mkdir arguments)
  | "touch" => some (s.touch arguments)
  | "chmod" => some (s.chmod arguments)
  | "ln" => some (s.ln arguments)
  | "cp" => some (s.cp arguments)
  | "mv" => some (s.mv arguments)
  | "ls" => some (s.ls arguments)
  | "basename" => some (s.printBaseName arguments)
  | "dirname" => some (s.printDirectoryName arguments)
  | "readlink" => some (s.readLinks arguments)
  | "tee" => some (s.tee arguments)
  | "cmp" => some (s.cmp arguments)
  | "head" => some (s.head arguments)
  | "tail" => some (s.tail arguments)
  | "wc" => some (s.wc arguments)
  | "sort" => some (s.sort arguments)
  | "uniq" => some (s.uniq arguments)
  | "rev" | "tac" => some (s.reversed program arguments)
  | "cut" => some (s.cut arguments)
  | "tr" => some (s.tr arguments)
  | "seq" => some (s.seq arguments)
  | "yes" => some (s.yes arguments)
  | "dd" => some (s.dd arguments)
  | "expr" => some (s.expr arguments)
  | "sleep" | "sync" => some (s.withStatus 0)
  | _ => none

end Shell

end RenderCheck.Script
