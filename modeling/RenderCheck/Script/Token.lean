import RenderCheck.Script.Command

/-! # Tokens of tool scripts

    A script is read token by token. What has been read, what is still to be
    read, and the documents that are announced before their text comes are
    kept in a source. -/

namespace RenderCheck.Script

/-- The sign of a redirection. -/
inductive Sign where
  /-- A file or a stream is named after it. -/
  | plain (direction : Direction)
  /-- The end of a document is named after it; tabs at the beginning of its
      lines may be left out. -/
  | document (withoutTabs : Bool)
  deriving DecidableEq

/-- A token of a script. -/
inductive Token where
  | endOfText
  | lineEnd
  | redirection (stream : Nat) (sign : Sign)
  /-- A word, and whether some of it is quoted. -/
  | word (word : Word) (quoted : Bool)
  | operator (text : String)
  | keyword (text : String)

namespace Token

/-- The words that have a meaning where a command begins. -/
def keywords : List String :=
  ["!", "case", "do", "done", "elif", "else", "esac", "fi", "for", "if", "in", "then", "until",
   "while", "\x7b", "\x7d"]

/-- The keywords that end a list of commands. -/
def closingKeywords : List String :=
  ["do", "done", "elif", "else", "esac", "fi", "then", "\x7d"]

/-- What the token is called. -/
def name : Token → String
  | endOfText => "end of file"
  | lineEnd => "newline"
  | redirection _ _ => "redirection"
  | word _ _ => "word"
  | operator text | keyword text => "\"" ++ text ++ "\""

/-- The token is a certain operator. -/
def isOperator (t : Token) (text : String) : Bool :=
  match t with
  | operator sign => sign = text
  | _ => false

/-- The token is a certain keyword. -/
def isKeyword (t : Token) (text : String) : Bool :=
  match t with
  | keyword sign => sign = text
  | _ => false

/-- The token ends a list of commands. -/
def isClosing : Token → Bool
  | endOfText => true
  | operator text => text = ")" || text = ";;"
  | keyword text => closingKeywords.contains text
  | _ => false

end Token

/-! ## Characters -/

/-- May begin the name of a variable. -/
def isNameStart (c : Char) : Bool :=
  c.isAlpha || c == '_'

/-- May stand in the name of a variable. -/
def isNamePart (c : Char) : Bool :=
  c.isAlphanum || c == '_'

/-- The text is the name of a variable. -/
def isName (text : String) : Bool :=
  text.toList.head?.any isNameStart && text.toList.all isNamePart

/-- The sign of a parameter that the shell sets by itself. -/
def isSpecialSign (c : Char) : Bool :=
  ['@', '*', '#', '?', '$', '!', '-'].contains c

/-- Ends a word that is not quoted. -/
def isBreak (c : Char) : Bool :=
  [' ', '\t', '\n', ';', '&', '|', '(', ')', '<', '>'].contains c

/-- The grave accent, which encloses commands. -/
def graveAccent : Char := '\x60'

/-! ## Sources -/

/-- Why a text is no script, and in which line that was found. -/
structure SyntaxError where
  line : Nat
  text : String
  deriving DecidableEq

/-- A document announced in a command, whose text follows the end of the
    line. -/
structure Announcement where
  number : Nat
  /-- The line that ends it. -/
  mark : String
  withoutTabs : Bool
  /-- Nothing in it is filled in. -/
  verbatim : Bool

/-- A script being read. -/
structure Source where
  rest : List Char
  /-- The line that is being read. -/
  line : Nat := 1
  /-- A token that was read already but is still to be used. -/
  kept : Option Token := none
  /-- The documents whose text begins after the next line end. -/
  awaited : List Announcement := []
  /-- The number of documents announced so far. -/
  announced : Nat := 0
  /-- The texts of the documents by number. -/
  documents : List (Nat × Word) := []

/-- A reading of some part of a script. -/
abbrev Reader := StateT Source (Except SyntaxError)

namespace Reader

/-- The text cannot be read on. -/
def fail {α : Type} (text : String) : Reader α := do
  throw ⟨(← get).line, text⟩

/-- A token stands where another one has to. -/
def unexpected {α : Type} (token : Token) (expected : Option Token := none) : Reader α :=
  fail (token.name ++ " unexpected" ++
    match expected with
    | some token => " (expecting " ++ token.name ++ ")"
    | none => "")

/-- Keeps a token for later. -/
def keep (token : Token) : Reader Unit :=
  modify fun s => { s with kept := some token }

/-- Goes on behind some text, which is counted for its line ends. -/
def advance (taken rest : List Char) : Reader Unit :=
  modify fun s => { s with rest := rest, line := s.line + taken.count '\n' }

/-- Takes text off the front as long as it passes a test. -/
def takeWhile (test : Char → Bool) : Reader (List Char) := do
  let text := (← get).rest
  let taken := text.takeWhile test
  advance taken (text.dropWhile test)
  return taken

end Reader

/-- The lines of a document up to the one that ends it, and the text behind;
    the fuel is the length of the text. -/
def cutDocument (mark : List Char) (withoutTabs : Bool) : (fuel : Nat) → List Char →
    List Char × List Char
  | 0, _ => ([], [])
  | fuel + 1, text =>
    if text = [] then ([], [])
    else
      let line := text.takeWhile (· ≠ '\n')
      let line := if withoutTabs then line.dropWhile (· = '\t') else line
      let rest := (text.dropWhile (· ≠ '\n')).drop 1
      if line = mark then ([], rest)
      else
        let ended := (text.dropWhile (· ≠ '\n')).take 1
        let (lines, behind) := cutDocument mark withoutTabs fuel rest
        (line ++ ended ++ lines, behind)

/-- The text between grave accents: backslashes before backslashes, dollar
    signs and grave accents go, within double quotes also those before such.
    `none` if the closing accent is missing; else the text, what is taken with
    it and what follows. -/
def cutAccented? (inDouble : Bool) : List Char → Option (List Char × List Char × List Char)
  | [] => none
  | ['\\'] => none
  | '\\' :: c :: rest =>
    let text :=
      if c = '\n' then []
      else if c = '\\' || c = '$' || c = graveAccent || (inDouble && c = '"') then [c]
      else ['\\', c]
    (cutAccented? inDouble rest).map fun (inner, taken, behind) =>
      (text ++ inner, '\\' :: c :: taken, behind)
  | c :: rest =>
    if c = graveAccent then some ([], [c], rest)
    else (cutAccented? inDouble rest).map fun (inner, taken, behind) =>
      (c :: inner, c :: taken, behind)

/-- The redirection at the front of a text: its stream, its sign, and what
    follows. -/
def redirectionAt? (text : List Char) : Option (Nat × Sign × List Char) :=
  let number := text.takeWhile Char.isDigit
  let stream (other : Nat) : Nat := (number.head?.map (·.toNat - 48)).getD other
  if 1 < number.length then none
  else
    match text.drop number.length with
    | '<' :: '<' :: '-' :: rest => some (stream 0, .document true, rest)
    | '<' :: '<' :: rest => some (stream 0, .document false, rest)
    | '<' :: '&' :: rest => some (stream 0, .plain .duplicate, rest)
    | '<' :: '>' :: rest => some (stream 0, .plain .update, rest)
    | '<' :: rest => some (stream 0, .plain .read, rest)
    | '>' :: '>' :: rest => some (stream 1, .plain .append, rest)
    | '>' :: '&' :: rest => some (stream 1, .plain .duplicate, rest)
    | '>' :: '|' :: rest => some (stream 1, .plain .write, rest)
    | '>' :: rest => some (stream 1, .plain .write, rest)
    | _ => none

/-- The operator at the front of a text, and what follows. -/
def operatorAt? : List Char → Option (String × List Char)
  | ';' :: ';' :: rest => some (";;", rest)
  | '&' :: '&' :: rest => some ("&&", rest)
  | '|' :: '|' :: rest => some ("||", rest)
  | ';' :: rest => some (";", rest)
  | '&' :: rest => some ("&", rest)
  | '|' :: rest => some ("|", rest)
  | '(' :: rest => some ("(", rest)
  | ')' :: rest => some (")", rest)
  | _ => none

/-- Some of the word is quoted. -/
def isQuoted (word : Word) : Bool :=
  word.any fun
    | .literal _ quoted => quoted
    | _ => false

/-- Splits an assignment into its name and its value. -/
def assignment? : Word → Option (String × Word)
  | .literal text false :: rest =>
    let name := text.toList.takeWhile isNamePart
    match text.toList.dropWhile isNamePart with
    | '=' :: value =>
      if isName (String.ofList name) then
        some (String.ofList name,
          if value = [] then rest else .literal (String.ofList value) false :: rest)
      else none
    | _ => none
  | _ => none

end RenderCheck.Script
