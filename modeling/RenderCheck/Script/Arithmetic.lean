import RenderCheck.Script.Token

/-! # Arithmetic in scripts

    Expressions over whole numbers of 64 bits, with variables that can be read
    and set. A variable holds a text, which has to write a number. -/

namespace RenderCheck.Script

namespace Arithmetic

/-- An operation on two numbers. -/
inductive Operation where
  | add | sub | mul | div | rem
  | shiftLeft | shiftRight
  | less | lessEqual | greater | greaterEqual | equal | unequal
  | bitAnd | bitXor | bitOr
  deriving DecidableEq

/-- An expression. -/
inductive Expression where
  | number (value : Int)
  | parameter (name : String)
  /-- The number with its sign changed. -/
  | minus (operand : Expression)
  /-- One for zero, zero for all else. -/
  | not (operand : Expression)
  /-- Every bit changed. -/
  | complement (operand : Expression)
  | binary (operation : Operation) (left right : Expression)
  | and (left right : Expression)
  | or (left right : Expression)
  | conditional (test positive negative : Expression)
  /-- A variable set to a value, or to what an operation makes of its own. -/
  | assign (name : String) (operation : Option Operation) (value : Expression)

/-! ## Reading -/

/-- A token of an expression. -/
inductive Lexeme where
  | number (value : Nat)
  | name (text : String)
  | sign (text : String)
  | unknown
  deriving DecidableEq

/-- The signs of expressions, the longer before those they begin with. -/
def signs : List String :=
  ["<<=", ">>=", "<<", ">>", "<=", ">=", "==", "!=", "&&", "||", "+=", "-=", "*=", "/=", "%=", "&=",
   "^=", "|=", "<", ">", "=", "!", "~", "+", "-", "*", "/", "%", "&", "^", "|", "?", ":", "(", ")"]

/-- The value of a digit. -/
def digitValue? (c : Char) : Option Nat :=
  if c.isDigit then some (c.toNat - 48)
  else if 'a' ≤ c && c ≤ 'f' then some (c.toNat - 87)
  else if 'A' ≤ c && c ≤ 'F' then some (c.toNat - 55)
  else none

/-- The digits of a base at the front of a text: their value, and what
    follows. -/
def readDigits (base : Nat) (value : Nat) : List Char → Nat × List Char
  | [] => (value, [])
  | c :: rest =>
    match digitValue? c with
    | some digit => if digit < base then readDigits base (value * base + digit) rest
      else (value, c :: rest)
    | none => (value, c :: rest)

/-- A number at the front of a text, decimal, octal after a zero, hexadecimal
    after a zero and an x. -/
def readNumber (text : List Char) : Nat × List Char :=
  match text with
  | '0' :: x :: rest =>
    if (x = 'x' || x = 'X') && (rest.head?.bind digitValue?).isSome then readDigits 16 0 rest
    else readDigits 8 0 text
  | '0' :: rest => readDigits 8 0 rest
  | text => readDigits 10 0 text

/-- The tokens of an expression; the fuel is its length. -/
def lexemes : (fuel : Nat) → List Char → List Lexeme
  | 0, _ => []
  | _, [] => []
  | fuel + 1, c :: rest =>
    let text := c :: rest
    if c = ' ' || c = '\t' || c = '\n' then lexemes fuel rest
    else if c.isDigit then
      let (value, rest) := readNumber text
      .number value :: lexemes fuel rest
    else if isNameStart c then
      .name (String.ofList (text.takeWhile isNamePart)) ::
        lexemes fuel (text.dropWhile isNamePart)
    else
      match signs.find? (·.toList.isPrefixOf text) with
      | some sign => .sign sign :: lexemes fuel (text.drop sign.length)
      | none => .unknown :: lexemes fuel rest

/-- The signs of operations with their ranks: those of a higher rank bind
    closer. -/
def operations : List (String × Nat × Operation) :=
  [("*", 8, .mul), ("/", 8, .div), ("%", 8, .rem), ("+", 7, .add), ("-", 7, .sub),
   ("<<", 6, .shiftLeft), (">>", 6, .shiftRight), ("<", 5, .less), ("<=", 5, .lessEqual),
   (">", 5, .greater), (">=", 5, .greaterEqual), ("==", 4, .equal), ("!=", 4, .unequal),
   ("&", 3, .bitAnd), ("^", 2, .bitXor), ("|", 1, .bitOr)]

/-- The signs of assignments with the operations in them. -/
def assignments : List (String × Option Operation) :=
  [("=", none), ("+=", some .add), ("-=", some .sub), ("*=", some .mul), ("/=", some .div),
   ("%=", some .rem), ("<<=", some .shiftLeft), (">>=", some .shiftRight), ("&=", some .bitAnd),
   ("^=", some .bitXor), ("|=", some .bitOr)]

mutual

/-- Reads an assignment, or an expression that has none. -/
def readAssignment : (fuel : Nat) → List Lexeme → Except String (Expression × List Lexeme)
  | 0, _ => .error "expecting primary"
  | fuel + 1, tokens => do
    let assigned : Option (String × Option Operation × List Lexeme) :=
      match tokens with
      | .name name :: .sign sign :: rest =>
        (assignments.lookup sign).map fun operation => (name, operation, rest)
      | _ => none
    match assigned with
    | some (name, operation, rest) =>
      let (value, rest) ← readAssignment fuel rest
      return (.assign name operation value, rest)
    | none =>
      let (test, rest) ← readOr fuel tokens
      match rest with
      | .sign "?" :: rest =>
        let (positive, rest) ← readAssignment fuel rest
        match rest with
        | .sign ":" :: rest =>
          let (negative, rest) ← readAssignment fuel rest
          return (.conditional test positive negative, rest)
        | _ => throw "expecting ':'"
      | rest => return (test, rest)

/-- Reads an expression one of whose parts has to hold. -/
def readOr : (fuel : Nat) → List Lexeme → Except String (Expression × List Lexeme)
  | 0, _ => .error "expecting primary"
  | fuel + 1, tokens => do
    let (left, rest) ← readAnd fuel tokens
    match rest with
    | .sign "||" :: rest =>
      let (right, rest) ← readOr fuel rest
      return (.or left right, rest)
    | rest => return (left, rest)

/-- Reads an expression all of whose parts have to hold. -/
def readAnd : (fuel : Nat) → List Lexeme → Except String (Expression × List Lexeme)
  | 0, _ => .error "expecting primary"
  | fuel + 1, tokens => do
    let (first, rest) ← readPrimary fuel tokens
    let (left, rest) ← readOperations fuel 0 first rest
    match rest with
    | .sign "&&" :: rest =>
      let (right, rest) ← readAnd fuel rest
      return (.and left right, rest)
    | rest => return (left, rest)

/-- Reads operations of at least a rank behind their left operand. -/
def readOperations : (fuel : Nat) → (rank : Nat) → Expression → List Lexeme →
    Except String (Expression × List Lexeme)
  | 0, _, _, _ => .error "expecting primary"
  | fuel + 1, rank, left, tokens => do
    let next : Option (Nat × Operation × List Lexeme) :=
      match tokens with
      | .sign sign :: rest =>
        (operations.lookup sign).bind fun (own, operation) =>
          if rank ≤ own then some (own, operation, rest) else none
      | _ => none
    match next with
    | some (own, operation, rest) =>
      let (first, rest) ← readPrimary fuel rest
      let (right, rest) ← readOperations fuel (own + 1) first rest
      readOperations fuel rank (.binary operation left right) rest
    | none => return (left, tokens)

/-- Reads an operand. -/
def readPrimary : (fuel : Nat) → List Lexeme → Except String (Expression × List Lexeme)
  | 0, _ => .error "expecting primary"
  | fuel + 1, tokens => do
    match tokens with
    | .number value :: rest => return (.number value, rest)
    | .name name :: rest => return (.parameter name, rest)
    | .sign "(" :: rest =>
      let (inner, rest) ← readAssignment fuel rest
      match rest with
      | .sign ")" :: rest => return (inner, rest)
      | _ => throw "expecting ')'"
    | .sign "+" :: rest => readPrimary fuel rest
    | .sign "-" :: rest =>
      let (operand, rest) ← readPrimary fuel rest
      return (.minus operand, rest)
    | .sign "!" :: rest =>
      let (operand, rest) ← readPrimary fuel rest
      return (.not operand, rest)
    | .sign "~" :: rest =>
      let (operand, rest) ← readPrimary fuel rest
      return (.complement operand, rest)
    | _ => throw "expecting primary"

end

/-- Reads an expression, or says what is missing. -/
def read (text : String) : Except String Expression := do
  let tokens := lexemes text.length text.toList
  let (expression, rest) ← readAssignment (16 * tokens.length + 16) tokens
  if rest = [] then return expression else throw "expecting EOF"

/-! ## Values -/

/-- Why an expression has no value. -/
inductive Failure where
  /-- It is malformed, or divides by zero. -/
  | expression (text : String)
  /-- The text of a variable is no number. -/
  | number (text : String)
  deriving DecidableEq

/-- The number of 64 bits that is left of a number. -/
def wrap (value : Int) : Int :=
  value.bmod 0x10000000000000000

/-- One if something holds, else zero. -/
def truth (holds : Bool) : Int :=
  if holds then 1 else 0

/-- A number taken as bits. -/
def bits (value : Int) : BitVec 64 :=
  BitVec.ofInt 64 value

/-- The result of an operation. -/
def Operation.apply (left right : Int) : Operation → Except Failure Int
  | add => .ok (wrap (left + right))
  | sub => .ok (wrap (left - right))
  | mul => .ok (wrap (left * right))
  | div => if right = 0 then .error (.expression "division by zero")
    else .ok (wrap (left.tdiv right))
  | rem => if right = 0 then .error (.expression "division by zero")
    else .ok (wrap (left.tmod right))
  | shiftLeft => .ok (bits left <<< (right.toNat % 64)).toInt
  | shiftRight => .ok ((bits left).sshiftRight (right.toNat % 64)).toInt
  | less => .ok (truth (left < right))
  | lessEqual => .ok (truth (left ≤ right))
  | greater => .ok (truth (right < left))
  | greaterEqual => .ok (truth (right ≤ left))
  | equal => .ok (truth (left = right))
  | unequal => .ok (truth (left ≠ right))
  | bitAnd => .ok (bits left &&& bits right).toInt
  | bitXor => .ok (bits left ^^^ bits right).toInt
  | bitOr => .ok (bits left ||| bits right).toInt

/-- The number that the text of a variable writes; an empty one is zero. -/
def valueOf (text : String) : Except Failure Int :=
  let inner := text.toList.dropWhile fun c => [' ', '\t', '\n'].contains c
  let (negative, digits) := match inner with
    | '-' :: rest => (true, rest)
    | '+' :: rest => (false, rest)
    | rest => (false, rest)
  let (value, rest) := readNumber digits
  if inner = [] then .ok 0
  else if digits.head?.any Char.isDigit &&
      rest.all fun c => [' ', '\t', '\n'].contains c then
    .ok (wrap (if negative then -(value : Int) else value))
  else .error (.number text)

/-- The value of an expression, with what was assigned on the way in front of
    what was known. -/
def Expression.value : Expression → List (String × String) →
    Except Failure (Int × List (String × String))
  | number value, known => .ok (min value 0x7FFFFFFFFFFFFFFF, known)
  | parameter name, known => do
    return (← valueOf ((known.lookup name).getD ""), known)
  | minus operand, known => do
    let (x, known) ← operand.value known
    return (wrap (-x), known)
  | not operand, known => do
    let (x, known) ← operand.value known
    return (truth (x = 0), known)
  | complement operand, known => do
    let (x, known) ← operand.value known
    return (-x - 1, known)
  | binary operation left right, known => do
    let (x, known) ← left.value known
    let (y, known) ← right.value known
    return (← operation.apply x y, known)
  | and left right, known => do
    let (x, known) ← left.value known
    if x = 0 then return (0, known)
    let (y, known) ← right.value known
    return (truth (y ≠ 0), known)
  | or left right, known => do
    let (x, known) ← left.value known
    if x ≠ 0 then return (1, known)
    let (y, known) ← right.value known
    return (truth (y ≠ 0), known)
  | conditional test positive negative, known => do
    let (x, known) ← test.value known
    if x ≠ 0 then positive.value known else negative.value known
  | assign name operation operand, known => do
    let (x, known) ← operand.value known
    let result ← match operation with
      | some operation => operation.apply (← valueOf ((known.lookup name).getD "")) x
      | none => pure x
    return (result, (name, toString result) :: known)

/-- What is said of an expression without a value. -/
def Failure.message (text : String) : Failure → String
  | expression complaint => "arithmetic expression: " ++ complaint ++ ": \"" ++ text ++ "\""
  | number text => "Illegal number: " ++ text

/-- The value of an expression given as a text. -/
def evaluate (text : String) (known : List (String × String)) :
    Except Failure (Int × List (String × String)) :=
  match read text with
  | .ok expression => expression.value known
  | .error complaint => .error (.expression complaint)

end Arithmetic

end RenderCheck.Script
