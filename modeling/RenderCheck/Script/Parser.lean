import RenderCheck.Script.Token

/-! # Reading tool scripts

    A script is read and run line by line, so that what stands before a
    mistake is still run. Words can hold commands, and commands hold words:
    both are read by one family of functions. Each of them goes on with less
    fuel, of which a script needs no more than a multiple of its length. -/

namespace RenderCheck.Script

/-- Where the pieces of a word end, and what is quoted in them. -/
inductive Mode where
  /-- At a blank or an operator. -/
  | word
  /-- At a double quote. -/
  | double
  /-- At a closing brace; within double quotes or not. -/
  | braced (inDouble : Bool)
  /-- At the end of the text. -/
  | document
  /-- At two closing parentheses, with some others to be closed before. -/
  | arithmetic (depth : Nat)
  deriving DecidableEq

namespace Mode

/-- Everything read that way is quoted. -/
def quotes : Mode → Bool
  | word | braced false => false
  | _ => true

/-- The characters that a backslash takes the meaning from, where not all
    are. -/
def escapable : Mode → List Char
  | double => ['$', '\\', graveAccent, '"']
  | braced _ => ['$', '\\', graveAccent, '"', '\x7d']
  | _ => ['$', '\\', graveAccent]

/-- Single quotes enclose text. -/
def hasSingleQuotes (mode : Mode) : Bool :=
  !mode.quotes

/-- Double quotes enclose text. -/
def hasDoubleQuotes : Mode → Bool
  | word | braced _ => true
  | _ => false

/-- The pieces end in front of the text. -/
def endsAt : Mode → List Char → Bool
  | word, c :: _ => isBreak c
  | double, c :: _ => c = '"'
  | braced _, c :: _ => c = '\x7d'
  | document, _ :: _ => false
  | arithmetic depth, ')' :: ')' :: _ => depth = 0
  | arithmetic _, _ => false
  | _, [] => true

/-- What is said if the text ends too early. -/
def complaint? : Mode → Option String
  | word | document => none
  | double => some "Unterminated quoted string"
  | braced _ => some "Missing '\x7d'"
  | arithmetic _ => some "Missing '))'"

/-- The mode behind a character that stands for itself. -/
def behind : Mode → Char → Mode
  | arithmetic depth, '(' => arithmetic (depth + 1)
  | arithmetic depth, ')' => arithmetic (depth - 1)
  | mode, _ => mode

/-- The character stands for itself wherever it does. -/
def isPlain (mode : Mode) (c : Char) : Bool :=
  !(['\'', '"', '\\', '$', graveAccent, '(', ')', '\x7d'].contains c) && !mode.endsAt [c]

end Mode

/-- How a list of commands ends. -/
inductive Ending where
  /-- Behind at least one command, at a word that closes the list. -/
  | block
  /-- The same, but there may be no command. -/
  | optional
  deriving DecidableEq

/-- The use that the text behind the name of a parameter asks for; whether a
    pattern follows, and what is left. -/
def useAt : List Char → Use × List Char
  | ':' :: '-' :: rest => (.orElse true, rest)
  | ':' :: '=' :: rest => (.orAssign true, rest)
  | ':' :: '?' :: rest => (.orFail true, rest)
  | ':' :: '+' :: rest => (.ifSet true, rest)
  | '-' :: rest => (.orElse false, rest)
  | '=' :: rest => (.orAssign false, rest)
  | '?' :: rest => (.orFail false, rest)
  | '+' :: rest => (.ifSet false, rest)
  | '%' :: '%' :: rest => (.withoutEnd true, rest)
  | '%' :: rest => (.withoutEnd false, rest)
  | '#' :: '#' :: rest => (.withoutFront true, rest)
  | '#' :: rest => (.withoutFront false, rest)
  | '\x7d' :: rest => (.plain, '\x7d' :: rest)
  | rest => (.malformed, rest)

/-- The use takes a pattern. -/
def Use.takesPattern : Use → Bool
  | withoutEnd _ | withoutFront _ => true
  | _ => false

/-- The name of a parameter at the front of a text in braces, and what
    follows. -/
def nameAt? : List Char → Option (String × List Char)
  | c :: rest =>
    let whole := c :: rest
    if isNameStart c then
      some (String.ofList (whole.takeWhile isNamePart), whole.dropWhile isNamePart)
    else if c.isDigit then
      some (String.ofList (whole.takeWhile Char.isDigit), whole.dropWhile Char.isDigit)
    else if isSpecialSign c then some (c.toString, rest)
    else none
  | [] => none

/-- The parameter named behind an opening brace, its use, and what follows. -/
def parameterAt (text : List Char) : String × Use × List Char :=
  let measured : Option (String × List Char) :=
    match text with
    | '#' :: c :: rest =>
      if isNamePart c then nameAt? (c :: rest)
      else
        match rest with
        | '\x7d' :: _ => if isSpecialSign c then some (c.toString, rest) else none
        | _ => none
    | _ => none
  match measured with
  | some (name, rest) =>
    if rest.head? = some '\x7d' then (name, .length, rest) else (name, .malformed, rest)
  | none =>
    match nameAt? text with
    | some (name, rest) => (name, useAt rest)
    | none => ("", .malformed, text)

/-- The word is nothing but the arguments, which may be none. -/
def isArgumentsOnly : Word → Bool
  | [.parameter "@" .plain _ _] => true
  | _ => false

mutual

/-- Reads the pieces of a word up to where they end. -/
def readPieces : (fuel : Nat) → Mode → Reader Word
  | 0, _ => Reader.fail "Too long"
  | fuel + 1, mode => do
    let text := (← get).rest
    if mode.endsAt text then
      match text, mode.complaint? with
      | [], some complaint => Reader.fail complaint
      | _, _ => return []
    else
      match text with
      | [] => return []
      | c :: rest =>
        if c = '\'' && mode.hasSingleQuotes then
          Reader.advance [] rest
          let quoted ← Reader.takeWhile (· ≠ '\'')
          if (← get).rest = [] then Reader.fail "Unterminated quoted string"
          Reader.advance [] ((← get).rest.drop 1)
          return .literal (String.ofList quoted) true :: (← readPieces fuel mode)
        else if c = '"' && mode.hasDoubleQuotes then
          Reader.advance [] rest
          let quoted ← readPieces fuel .double
          Reader.advance [] ((← get).rest.drop 1)
          let mark := if isArgumentsOnly quoted then [] else [Piece.literal "" true]
          return mark ++ quoted ++ (← readPieces fuel mode)
        else if c = '\\' then
          match rest with
          | '\n' :: rest =>
            Reader.advance ['\n'] rest
            readPieces fuel mode
          | d :: rest =>
            if mode.quotes && !mode.escapable.contains d then
              Reader.advance [] (d :: rest)
              return .literal "\\" true :: (← readPieces fuel mode)
            else
              Reader.advance [] rest
              return .literal d.toString true :: (← readPieces fuel mode)
          | [] =>
            Reader.advance [] []
            return .literal "\\" true :: (← readPieces fuel mode)
        else if c = '$' then
          Reader.advance [] rest
          let piece ← readDollar fuel mode.quotes
          return piece :: (← readPieces fuel mode)
        else if c = graveAccent then
          Reader.advance [] rest
          let command ← readAccented fuel (mode = .double)
          return .output command mode.quotes :: (← readPieces fuel mode)
        else if mode.isPlain c then
          let run ← Reader.takeWhile mode.isPlain
          return .literal (String.ofList run) mode.quotes :: (← readPieces fuel mode)
        else
          Reader.advance [c] rest
          return .literal c.toString mode.quotes :: (← readPieces fuel (mode.behind c))

/-- Reads what follows a dollar sign. -/
def readDollar : (fuel : Nat) → (quoted : Bool) → Reader Piece
  | 0, _ => Reader.fail "Too long"
  | fuel + 1, quoted => do
    match (← get).rest with
    | '(' :: '(' :: rest =>
      Reader.advance [] rest
      let expression ← readPieces fuel (.arithmetic 0)
      Reader.advance [] ((← get).rest.drop 2)
      return .arithmetic expression quoted
    | '(' :: rest =>
      Reader.advance [] rest
      let before := (← get).awaited
      modify fun s => { s with awaited := [] }
      let command ← readList fuel .optional
      let token ← readToken fuel false false
      if !token.isOperator ")" then Reader.unexpected token (some (.operator ")"))
      modify fun s => { s with awaited := before }
      return .output command quoted
    | '\x7b' :: rest =>
      let (name, use, rest) := parameterAt rest
      Reader.advance [] rest
      let argument ← readPieces fuel (.braced (quoted && !use.takesPattern))
      Reader.advance [] ((← get).rest.drop 1)
      return .parameter name use argument quoted
    | c :: rest =>
      if isNameStart c then
        let name ← Reader.takeWhile isNamePart
        return .parameter (String.ofList name) .plain [] quoted
      else if c.isDigit || isSpecialSign c then
        Reader.advance [] rest
        return .parameter c.toString .plain [] quoted
      else return .literal "$" quoted
    | [] => return .literal "$" quoted

/-- Reads a command up to the closing grave accent. -/
def readAccented : (fuel : Nat) → (inDouble : Bool) → Reader Command
  | 0, _ => Reader.fail "Too long"
  | fuel + 1, inDouble => do
    match cutAccented? inDouble (← get).rest with
    | none =>
      Reader.advance (← get).rest []
      Reader.fail "EOF in backquote substitution"
    | some (inner, taken, behind) =>
      let outer ← get
      set { outer with rest := inner, kept := none, awaited := [] }
      let command ← readList fuel .optional
      modify fun s => { s with
        rest := behind, line := outer.line + taken.count '\n', kept := outer.kept,
        awaited := outer.awaited }
      return command

/-- Reads the texts of the documents that were announced, at the beginning of
    a line. -/
def readDocuments : (fuel : Nat) → Reader Unit
  | 0 => Reader.fail "Too long"
  | fuel + 1 => do
    match (← get).awaited with
    | [] => return
    | announcement :: others =>
      let text := (← get).rest
      let (lines, behind) :=
        cutDocument announcement.mark.toList announcement.withoutTabs (text.length + 1) text
      let line := (← get).line
      let document ←
        if announcement.verbatim then pure [.literal (String.ofList lines) true]
        else do
          modify fun s => { s with rest := lines, awaited := [] }
          readPieces fuel .document
      modify fun s => { s with
        rest := behind
        line := line + (text.take (text.length - behind.length)).count '\n'
        awaited := others
        documents := (announcement.number, document) :: s.documents }
      readDocuments fuel

/-- Reads a token as it stands in the text. -/
def readNext : (fuel : Nat) → Reader Token
  | 0 => Reader.fail "Too long"
  | fuel + 1 => do
    match (← get).rest with
    | [] => return .endOfText
    | '\\' :: '\n' :: rest =>
      Reader.advance ['\n'] rest
      readNext fuel
    | '\n' :: rest =>
      Reader.advance ['\n'] rest
      readDocuments fuel
      return .lineEnd
    | c :: rest =>
      if c = ' ' || c = '\t' then
        Reader.advance [] rest
        readNext fuel
      else if c = '#' then
        let _ ← Reader.takeWhile (· ≠ '\n')
        readNext fuel
      else
        match operatorAt? (c :: rest), redirectionAt? (c :: rest) with
        | some (sign, rest), _ =>
          Reader.advance [] rest
          return .operator sign
        | none, some (stream, sign, rest) =>
          Reader.advance [] rest
          return .redirection stream sign
        | none, none =>
          let word ← readPieces fuel .word
          return .word word (isQuoted word)

/-- Reads a token, one that was kept or the next. Line ends may be passed
    over, and keywords taken for such. -/
def readToken : (fuel : Nat) → (passLines keywords : Bool) → Reader Token
  | 0, _, _ => Reader.fail "Too long"
  | fuel + 1, passLines, keywords => do
    let source ← get
    let token ← match source.kept with
      | some token => do
        set { source with kept := none }
        pure token
      | none => readNext fuel
    match token with
    | .lineEnd => if passLines then readToken fuel passLines keywords else return .lineEnd
    | .word word quoted =>
      match if keywords && !quoted then bareText? word else none with
      | some text =>
        return if Token.keywords.contains text then .keyword text else .word word quoted
      | none => return .word word quoted
    | token => return token

/-- Reads commands up to a word that ends them. -/
def readList : (fuel : Nat) → Ending → Reader Command
  | 0, _ => Reader.fail "Too long"
  | fuel + 1, ending => do
    let token ← readToken fuel true true
    Reader.keep token
    match token with
    | .endOfText => return .skip
    | token =>
      if ending = .optional && token.isClosing then return .skip
      else
        let first ← readChain fuel
        let next ← readToken fuel false false
        match next with
        | .lineEnd | .endOfText =>
          Reader.keep next
          return .sequence first (← readList fuel .optional)
        | next =>
          if next.isOperator "&" then return .sequence (.apart first) (← readList fuel .optional)
          else if next.isOperator ";" then return .sequence first (← readList fuel .optional)
          else
            Reader.keep next
            return first

/-- Reads a command and those that depend on its success or failure. -/
def readChain : (fuel : Nat) → Reader Command
  | 0 => Reader.fail "Too long"
  | fuel + 1 => do readLinks fuel (← readPipeline fuel false)

/-- Reads what depends on the success or failure of the commands before. -/
def readLinks : (fuel : Nat) → Command → Reader Command
  | 0, _ => Reader.fail "Too long"
  | fuel + 1, first => do
    let token ← readToken fuel false false
    if token.isOperator "&&" then readLinks fuel (.andThen first (← readPipeline fuel true))
    else if token.isOperator "||" then readLinks fuel (.orElse first (← readPipeline fuel true))
    else
      Reader.keep token
      return first

/-- Reads commands with pipes between them; `fresh` if they begin after a
    sign. -/
def readPipeline : (fuel : Nat) → (fresh : Bool) → Reader Command
  | 0, _ => Reader.fail "Too long"
  | fuel + 1, fresh => do
    let token ← readToken fuel fresh fresh
    let negated := token.isKeyword "!"
    if !negated then Reader.keep token
    let first ← readCommand fuel false negated
    let others ← readPipes fuel
    let command := match others with
      | [] => first
      | others => .pipeline first others
    return if negated then .negate command else command

/-- Reads commands behind pipes. -/
def readPipes : (fuel : Nat) → Reader (List Command)
  | 0 => Reader.fail "Too long"
  | fuel + 1 => do
    let token ← readToken fuel false false
    if token.isOperator "|" then
      let command ← readCommand fuel true true
      return command :: (← readPipes fuel)
    else
      Reader.keep token
      return []

/-- Reads a keyword that has to stand here. -/
def readKeyword : (fuel : Nat) → (passLines : Bool) → String → Reader Unit
  | 0, _, _ => Reader.fail "Too long"
  | fuel + 1, passLines, text => do
    let token ← readToken fuel passLines passLines
    if !token.isKeyword text then Reader.unexpected token (some (.keyword text))

/-- Reads one command. -/
def readCommand : (fuel : Nat) → (passLines keywords : Bool) → Reader Command
  | 0, _, _ => Reader.fail "Too long"
  | fuel + 1, passLines, keywords => do
    let token ← readToken fuel passLines keywords
    let line := (← get).line
    match token with
    | .keyword "if" =>
      let command ← readConditional fuel
      readKeyword fuel false "fi"
      readLed fuel line command
    | .keyword "while" | .keyword "until" =>
      let test ← readList fuel .block
      readKeyword fuel false "do"
      let body ← readList fuel .block
      readKeyword fuel false "done"
      readLed fuel line (.loop (token.isKeyword "until") test body)
    | .keyword "for" =>
      match ← readToken fuel false false with
      | .word word false =>
        match bareText? word with
        | none => Reader.fail "Bad for loop variable"
        | some name =>
          if !isName name then Reader.fail "Bad for loop variable"
          let next ← readToken fuel true true
          let words ←
            if next.isKeyword "in" then do
              let words ← readWords fuel
              let last ← readToken fuel false false
              match last with
              | .lineEnd => pure words
              | last => if last.isOperator ";" then pure words else Reader.unexpected last
            else do
              if !next.isOperator ";" then Reader.keep next
              pure [[Piece.parameter "@" .plain [] true]]
          readKeyword fuel true "do"
          let body ← readList fuel .block
          readKeyword fuel false "done"
          readLed fuel line (.forEach line name words body)
      | _ => Reader.fail "Bad for loop variable"
    | .keyword "case" =>
      match ← readToken fuel false false with
      | .word subject _ =>
        readKeyword fuel true "in"
        readLed fuel line (.choice line subject (← readArms fuel))
      | token => Reader.unexpected token (some (.word [] false))
    | .keyword "\x7b" =>
      let command ← readList fuel .block
      readKeyword fuel false "\x7d"
      readLed fuel line command
    | .operator "(" =>
      let command ← readList fuel .block
      let last ← readToken fuel false false
      if !last.isOperator ")" then Reader.unexpected last (some (.operator ")"))
      readLed fuel line (.enclosed line command)
    | .word _ _ | .redirection _ _ =>
      Reader.keep token
      readSimple fuel line [] [] []
    | token => Reader.unexpected token

/-- Reads a condition up to its last word. -/
def readConditional : (fuel : Nat) → Reader Command
  | 0 => Reader.fail "Too long"
  | fuel + 1 => do
    let test ← readList fuel .block
    readKeyword fuel false "then"
    let positive ← readList fuel .block
    let token ← readToken fuel false false
    if token.isKeyword "elif" then return .conditional test positive (← readConditional fuel)
    else if token.isKeyword "else" then return .conditional test positive (← readList fuel .block)
    else
      Reader.keep token
      return .conditional test positive .skip

/-- Reads the words that a loop goes over. -/
def readWords : (fuel : Nat) → Reader (List Word)
  | 0 => Reader.fail "Too long"
  | fuel + 1 => do
    match ← readToken fuel false false with
    | .word word _ => return word :: (← readWords fuel)
    | token =>
      Reader.keep token
      return []

/-- Reads the arms of a choice and its last word. -/
def readArms : (fuel : Nat) → Reader (List (List Word × Command))
  | 0 => Reader.fail "Too long"
  | fuel + 1 => do
    let token ← readToken fuel true true
    if token.isKeyword "esac" then return []
    else
      if !token.isOperator "(" then Reader.keep token
      let patterns ← readPatterns fuel
      let body ← readList fuel .optional
      let last ← readToken fuel true true
      if last.isKeyword "esac" then return [(patterns, body)]
      else if last.isOperator ";;" then return (patterns, body) :: (← readArms fuel)
      else Reader.unexpected last (some (.operator ";;"))

/-- Reads the patterns of an arm and the parenthesis behind them. -/
def readPatterns : (fuel : Nat) → Reader (List Word)
  | 0 => Reader.fail "Too long"
  | fuel + 1 => do
    let word := match ← readToken fuel false false with
      | .word word _ => word
      | .keyword text => [.literal text false]
      | _ => []
    let next ← readToken fuel false false
    if next.isOperator "|" then return word :: (← readPatterns fuel)
    else if next.isOperator ")" then return [word]
    else Reader.unexpected next (some (.operator ")"))

/-- Reads what a redirection leads to. -/
def readTarget : (fuel : Nat) → (stream : Nat) → Sign → Reader Redirection
  | 0, _, _ => Reader.fail "Too long"
  | fuel + 1, stream, sign => do
    match ← readToken fuel false false with
    | .word word quoted =>
      match sign with
      | .plain direction => return .lead stream direction word
      | .document withoutTabs =>
        let mark := String.join (word.map fun
          | .literal text _ => text
          | .parameter name _ _ _ => "$" ++ name
          | _ => "")
        let number := (← get).announced
        modify fun s => { s with
          announced := number + 1
          awaited := s.awaited ++ [⟨number, mark, withoutTabs, quoted⟩] }
        return .lead stream (.document number) []
    | token => Reader.unexpected token

/-- Reads the redirections behind a command that is not simple. -/
def readLed : (fuel : Nat) → (line : Nat) → Command → Reader Command
  | 0, _, _ => Reader.fail "Too long"
  | fuel + 1, line, command => do
    let redirections ← readRedirections fuel
    return if redirections.isEmpty then command else .redirected line command redirections

/-- Reads redirections. -/
def readRedirections : (fuel : Nat) → Reader (List Redirection)
  | 0 => Reader.fail "Too long"
  | fuel + 1 => do
    match ← readToken fuel false true with
    | .redirection stream sign =>
      let first ← readTarget fuel stream sign
      return first :: (← readRedirections fuel)
    | token =>
      Reader.keep token
      return []

/-- Reads a simple command behind what has been read of it, or the definition
    of a function. -/
def readSimple : (fuel : Nat) → (line : Nat) → List (String × Word) → List Word →
    List Redirection → Reader Command
  | 0, _, _, _, _ => Reader.fail "Too long"
  | fuel + 1, line, assignments, words, redirections => do
    let token ← readToken fuel false false
    match token with
    | .word word _ =>
      match if words.isEmpty then assignment? word else none with
      | some entry => readSimple fuel line (assignments ++ [entry]) words redirections
      | none => readSimple fuel line assignments (words ++ [word]) redirections
    | .redirection stream sign =>
      readSimple fuel line assignments words (redirections ++ [← readTarget fuel stream sign])
    | token =>
      match words, token.isOperator "(" && assignments.isEmpty && redirections.isEmpty with
      | [word], true =>
        let last ← readToken fuel false false
        if !last.isOperator ")" then Reader.unexpected last (some (.operator ")"))
        match bareText? word with
        | none => Reader.fail "Bad function name"
        | some name =>
          if !isName name then Reader.fail "Bad function name"
          return .define name (← readCommand fuel true true)
      | words, _ =>
        Reader.keep token
        return .simple line assignments words redirections

end

/-- Reads the commands of one line, and of the lines they go on in; `none` at
    the end of the text. -/
def readLine (size : Nat) : (fuel : Nat) → Option Command → Reader (Option Command)
  | 0, _ => Reader.fail "Too long"
  | fuel + 1, before => do
    let token ← readToken size false true
    match token with
    | .lineEnd => return some (before.getD .skip)
    | .endOfText =>
      if before.isSome then Reader.keep token
      return before
    | token =>
      Reader.keep token
      let first ← readChain size
      let next ← readToken size false false
      let led := if next.isOperator "&" then Command.apart first else first
      let command := match before with
        | some before => .sequence before led
        | none => led
      match next with
      | .lineEnd | .endOfText => Reader.keep next
      | next =>
        if !next.isOperator "&" && !next.isOperator ";" then Reader.unexpected next
      readLine size fuel (some command)

/-- The fuel that reading a text takes. -/
def Source.size (source : Source) : Nat :=
  8 * source.rest.length + 64

/-- Reads the next line of a script: its command if there is one, and the
    script behind it. -/
def Source.next (source : Source) : Except SyntaxError (Option Command × Source) :=
  (readLine source.size source.size none).run source

end RenderCheck.Script
