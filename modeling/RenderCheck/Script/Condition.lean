import RenderCheck.FileTree.Operations
import RenderCheck.Script.Arithmetic
import RenderCheck.Script.ByteText

/-! # Conditions in scripts

    The arguments of `test` say something about texts, numbers and files. What
    an argument means depends on its place: an operator is only one where it
    can have its operands. -/

namespace RenderCheck.Script

namespace Condition

/-- How an operator takes its operands. -/
inductive Arity where
  /-- One operand behind it. -/
  | unary
  /-- An operand on either side. -/
  | binary
  /-- Whole conditions. -/
  | connective
  /-- A parenthesis. -/
  | parenthesis
  deriving DecidableEq

/-- The operators. -/
def operators : List (String × Arity) :=
  (["-r", "-w", "-x", "-e", "-f", "-d", "-c", "-b", "-p", "-u", "-g", "-k", "-s", "-t", "-z", "-n",
    "-h", "-O", "-G", "-L", "-S"].map (·, Arity.unary)) ++
  (["=", "!=", "<", ">", "-eq", "-ne", "-ge", "-gt", "-le", "-lt", "-nt", "-ot", "-ef"].map
    (·, Arity.binary)) ++
  [("!", .connective), ("-a", .connective), ("-o", .connective), ("(", .parenthesis),
   (")", .parenthesis)]

/-- The arity of an argument that could be an operator. -/
def arity? (text : String) : Option Arity :=
  operators.lookup text

/-- The arguments, and what they are about. -/
structure Setting where
  files : FileTree
  words : Array String

/-- What an argument is where it stands. -/
inductive Role where
  | missing
  | operand
  | operator (text : String) (arity : Arity)
  deriving DecidableEq

namespace Setting

/-- The argument at a place can only be an operand: nothing follows it, or
    something that has it as an operand. -/
def isOperandAt (s : Setting) (place : Nat) : Bool :=
  match s.words[place + 1]? with
  | none => true
  | some next => (s.words[place + 2]?).isSome && arity? next = some .binary

/-- What the argument at a place is. -/
def roleAt (s : Setting) (place : Nat) : Role :=
  match s.words[place]? with
  | none => .missing
  | some text =>
    match arity? text with
    | none => .operand
    | some arity =>
      if arity = .unary && s.isOperandAt place then .operand
      else if text = "(" && (s.words[place + 1]?).isNone then .operand
      else .operator text arity

/-- The argument at a place. -/
def wordAt (s : Setting) (place : Nat) : String :=
  (s.words[place]?).getD ""

end Setting

/-- The whole number that an operand writes. -/
def number (text : String) : Except String Int :=
  match text.toList.dropWhile (fun c => c = ' ' || ('\t' ≤ c && c ≤ '\r')) with
  | [] => .error ("Illegal number: " ++ text)
  | inner =>
    let (negative, digits) := match inner with
      | '-' :: rest => (true, rest)
      | '+' :: rest => (false, rest)
      | rest => (false, rest)
    let (value, rest) := Arithmetic.readDigits 10 0 digits
    if digits.head?.any Char.isDigit && rest.all fun c => c = ' ' || ('\t' ≤ c && c ≤ '\r') then
      .ok (if negative then -(value : Int) else value)
    else .error ("Illegal number: " ++ text)

/-- What an operator says about one operand. -/
def holdsOfOne (files : FileTree) (operator operand : String) : Bool :=
  let node? := (files.inspect true (toPath operand)).toOption
  let here := operand = "/dev/null"
  match operator with
  | "-z" => operand = ""
  | "-n" => operand ≠ ""
  | "-e" | "-r" | "-w" | "-O" | "-G" => here || node?.isSome
  | "-x" => match node? with
    | some (.file _ executable) => executable
    | some _ => true
    | none => false
  | "-f" => match node? with
    | some (.file _ _) => true
    | _ => false
  | "-d" => node?.any (·.isDirectory)
  | "-s" => match node? with
    | some (.file content _) => content.bytes ≠ []
    | some _ => true
    | none => false
  | "-c" => here
  | "-h" | "-L" => match files.inspect false (toPath operand) with
    | .ok (.link _) => true
    | _ => false
  | _ => false

/-- What an operator says about two operands. -/
def holdsOfTwo (files : FileTree) (operator left right : String) : Except String Bool :=
  let compare (holds : Int → Int → Bool) : Except String Bool := do
    return holds (← number left) (← number right)
  match operator with
  | "=" => .ok (left = right)
  | "!=" => .ok (left ≠ right)
  | "<" => .ok (left < right)
  | ">" => .ok (right < left)
  | "-eq" => compare (· = ·)
  | "-ne" => compare (· ≠ ·)
  | "-lt" => compare (· < ·)
  | "-le" => compare (· ≤ ·)
  | "-gt" => compare (· > ·)
  | "-ge" => compare (· ≥ ·)
  | "-ef" =>
    match files.locate true (toPath left), files.locate true (toPath right) with
    | .ok a, .ok b => .ok (a.node?.isSome && a.location = b.location)
    | _, _ => .ok false
  | _ => .ok false

mutual

/-- Whether one of some conditions holds, and the place where the last of them
    ends. -/
def anyOf (s : Setting) : (fuel : Nat) → (holds : Bool) → Role → (place : Nat) →
    Except String (Bool × Nat)
  | 0, holds, _, place => .ok (holds, place)
  | fuel + 1, holds, role, place => do
    let (one, place) ← allOf s fuel true role place
    if s.roleAt (place + 1) = .operator "-o" .connective then
      anyOf s fuel (holds || one) (s.roleAt (place + 2)) (place + 2)
    else return (holds || one, place)

/-- Whether all of some conditions hold. -/
def allOf (s : Setting) : (fuel : Nat) → (holds : Bool) → Role → (place : Nat) →
    Except String (Bool × Nat)
  | 0, holds, _, place => .ok (holds, place)
  | fuel + 1, holds, role, place => do
    let (one, place) ← single s fuel role place
    if s.roleAt (place + 1) = .operator "-a" .connective then
      allOf s fuel (holds && one) (s.roleAt (place + 2)) (place + 2)
    else return (holds && one, place)

/-- Whether a condition holds, or does not if a mark stands before it. -/
def single (s : Setting) : (fuel : Nat) → Role → (place : Nat) → Except String (Bool × Nat)
  | 0, _, place => .ok (false, place)
  | fuel + 1, role, place => do
    match role with
    | .operator "!" _ =>
      let next := s.roleAt (place + 1)
      let (holds, place) ← single s fuel next (if next = .missing then place else place + 1)
      return (!holds, place)
    | .missing => return (false, place)
    | .operator "(" _ =>
      let next := s.roleAt (place + 1)
      if next = .operator ")" .parenthesis then return (false, place + 1)
      let (holds, place) ← anyOf s fuel false next (place + 1)
      if s.roleAt (place + 1) = .operator ")" .parenthesis then return (holds, place + 1)
      else throw "closing paren expected"
    | .operator text .unary =>
      match s.words[place + 1]? with
      | none => throw (text ++ ": argument expected")
      | some operand =>
        if text = "-t" then
          let _ ← number operand
        return (holdsOfOne s.files text operand, place + 1)
    | _ =>
      match s.roleAt (place + 1) with
      | .operator text .binary =>
        match s.words[place + 2]? with
        | none => throw (text ++ ": argument expected")
        | some right => return (← holdsOfTwo s.files text (s.wordAt place) right, place + 2)
      | _ => return (s.wordAt place ≠ "", place)

end

/-- Whether a condition holds. Three and four arguments are looked at as a
    whole first. The fuel is the number of arguments. -/
def evaluate (files : FileTree) : (fuel : Nat) → List String → Except String Bool
  | 0, _ => .ok false
  | _, [] => .ok false
  | fuel + 1, words =>
    let run (operandFirst : Bool) (words : List String) : Except String Bool := do
      let s : Setting := ⟨files, words.toArray⟩
      let first := if operandFirst then .operand else s.roleAt 0
      let (holds, place) ← anyOf s (8 * words.length + 8) false first 0
      if (s.words[place + 1]?).isSome then
        let text := s.wordAt place
        throw (if text = "" then "unexpected operator" else text ++ ": unexpected operator")
      return holds
    let whole (words : List String) : Except String Bool :=
      if words.head? = some "(" && words.getLast? = some ")" then run false (words.drop 1).dropLast
      else if words.head? = some "!" then
        (evaluate files fuel (words.drop 1)).map (!·)
      else run false words
    match words with
    | [_, operator, _] =>
      if arity? operator = some .binary then run true words else whole words
    | [_, _, _, _] => whole words
    | words => run false words

end Condition

end RenderCheck.Script
