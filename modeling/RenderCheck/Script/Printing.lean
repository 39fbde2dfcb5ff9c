import RenderCheck.Binary64.Numeral
import RenderCheck.Binary64.Shortest
import RenderCheck.Script.Arithmetic

/-! # Printing in scripts

    Arguments are printed one after the other, or filled into a format. In
    both a backslash begins the name of a byte. -/

namespace RenderCheck.Script

/-! ## Escapes -/

/-- Takes up to so many octal digits off the front: their value, and what
    follows. -/
def takeOctal (value : Nat) : (count : Nat) → List Char → Nat × List Char
  | count + 1, c :: rest =>
    if '0' ≤ c && c ≤ '7' then takeOctal (value * 8 + (c.toNat - 48)) count rest
    else (value, c :: rest)
  | _, rest => (value, rest)

/-- The bytes that letters after a backslash name. -/
def namedBytes : List (Char × Char) :=
  [('a', '\x07'), ('b', '\x08'), ('e', '\x1b'), ('f', '\x0c'), ('n', '\n'), ('r', '\r'), ('t', '\t'),
   ('v', '\x0b'), ('\\', '\\')]

/-- The byte that is named behind a backslash, and what follows; the backslash
    itself if nothing is named. -/
def escapeAt : List Char → Char × List Char
  | [] => ('\\', [])
  | c :: rest =>
    if '0' ≤ c && c ≤ '7' then
      let (value, rest) := takeOctal 0 3 (c :: rest)
      (Char.ofNat (value % 256), rest)
    else
      match namedBytes.lookup c with
      | some byte => (byte, rest)
      | none => ('\\', c :: rest)

/-- A text with its escapes replaced, and whether printing ends with it: after
    `\c` nothing more is printed. A zero may stand before an octal number. The
    fuel is the length of the text. -/
def unescape : (fuel : Nat) → List Char → List Char × Bool
  | 0, _ => ([], false)
  | _, [] => ([], false)
  | _ + 1, '\\' :: 'c' :: _ => ([], true)
  | fuel + 1, '\\' :: rest =>
    let rest := match rest with
      | '0' :: c :: others => if '0' ≤ c && c ≤ '7' then c :: others else rest
      | rest => rest
    let (byte, rest) := escapeAt rest
    let (text, ended) := unescape fuel rest
    (byte :: text, ended)
  | fuel + 1, c :: rest =>
    let (text, ended) := unescape fuel rest
    (c :: text, ended)

/-- What `echo` prints: its arguments with blanks between them and a line end,
    unless the first is `-n` or an argument ends the printing. -/
def echo (arguments : List String) : String :=
  let silent := arguments.head? = some "-n"
  let text := (" ".intercalate (if silent then arguments.drop 1 else arguments)).toList
  let (text, ended) := unescape (text.length + 1) text
  String.ofList (if silent || ended then text else text ++ ['\n'])

/-- What the program `echo` prints, which is another one than the command of the
    shell: escapes only count where they are asked for. -/
def echoPlainly (escapes silent : Bool) : List String → String
  | [] => if silent then "" else "\n"
  | argument :: arguments =>
    let isOption := match argument.toList with
      | '-' :: c :: letters => (c :: letters).all ['n', 'e', 'E'].contains
      | _ => false
    if isOption then
      let letters := argument.toList
      let last := (letters.filter fun c => c = 'e' || c = 'E').getLast?
      echoPlainly (last.elim escapes (· = 'e')) (silent || letters.contains 'n') arguments
    else
      let text := (" ".intercalate (argument :: arguments)).toList
      let (text, ended) := if escapes then unescape (text.length + 1) text else (text, false)
      String.ofList (if silent || ended then text else text ++ ['\n'])

/-! ## Directives -/

/-- A directive of a format: how an argument is filled in. -/
structure Directive where
  /-- The signs `-`, `+`, `0`, `#` and blanks. -/
  flags : List Char
  /-- The least number of bytes. -/
  width : Nat
  /-- The number of digits, or the largest number of bytes. -/
  precision : Option Nat
  /-- The letter that says what it is. -/
  kind : Char

namespace Directive

/-- A sign is set. -/
def has (d : Directive) (flag : Char) : Bool :=
  d.flags.contains flag

/-- A text with blanks in front of it, or behind. -/
def pad (d : Directive) (text : List Char) : List Char :=
  let blanks := List.replicate (d.width - text.length) ' '
  if d.has '-' then text ++ blanks else blanks ++ text

/-- A number with its sign, and with zeros or blanks in front of it. -/
def padNumber (d : Directive) (zeros : Bool) (sign digits : List Char) : List Char :=
  if zeros && d.has '0' && !d.has '-' then
    sign ++ List.replicate (d.width - sign.length - digits.length) '0' ++ digits
  else d.pad (sign ++ digits)

/-- The sign of a number that may have one. -/
def sign (d : Directive) (negative : Bool) : List Char :=
  if negative then ['-'] else if d.has '+' then ['+'] else if d.has ' ' then [' '] else []

/-- A text, or so much of it. -/
def text (d : Directive) (value : String) : List Char :=
  d.pad (match d.precision with
    | some count => value.toList.take count
    | none => value.toList)

/-- The digits of a whole number, at least as many as asked for. -/
def digits (d : Directive) (base value : Nat) : List Char :=
  let digits := if value = 0 ∧ d.precision = some 0 then [] else Nat.toDigits base value
  List.replicate (d.precision.getD 1 - digits.length) '0' ++ digits

/-- A whole number. -/
def integer (d : Directive) (value : Int) : List Char :=
  let word := (value.emod 0x10000000000000000).toNat
  match d.kind with
  | 'd' | 'i' =>
    d.padNumber d.precision.isNone (d.sign (value < 0)) (d.digits 10 value.natAbs)
  | 'o' =>
    let digits := d.digits 8 word
    d.padNumber d.precision.isNone []
      (if d.has '#' && digits.head? ≠ some '0' then '0' :: digits else digits)
  | 'u' => d.padNumber d.precision.isNone [] (d.digits 10 word)
  | kind =>
    let mark := if d.has '#' && word ≠ 0 then ['0', kind] else []
    let digits := d.digits 16 word
    d.padNumber d.precision.isNone mark
      (if kind = 'X' then digits.map Char.toUpper else digits)

/-- Digits with a point before the last so many. -/
def point (marked : Bool) (places : Nat) (digits : List Char) : List Char :=
  let digits := List.replicate (places + 1 - digits.length) '0' ++ digits
  let whole := digits.take (digits.length - places)
  if places = 0 && !marked then whole
  else whole ++ '.' :: digits.drop (digits.length - places)

/-- The decimal digits of a fraction rounded to so many places. -/
def fixed (marked : Bool) (places num den : Nat) : List Char :=
  point marked places (Nat.toDigits 10 (Binary64.roundDiv (num * Nat.pow 10 places) den))

/-- A positive fraction rounded to so many digits: the digits as a number, and
    the power of ten of the first. -/
def scientificParts (places num den : Nat) : Nat × Int :=
  let whole := Nat.pow 10 400
  let exponent : Int := (Nat.toDigits 10 (num * whole / den)).length - 1 - 400
  let shift := (places : Int) - exponent
  let rounded := Binary64.roundDiv (num * Nat.pow 10 shift.toNat) (den * Nat.pow 10 (-shift).toNat)
  if rounded = Nat.pow 10 (places + 1) then (rounded / 10, exponent + 1) else (rounded, exponent)

/-- A power of ten with its sign and at least two digits. -/
def exponentText (letter : Char) (exponent : Int) : List Char :=
  let digits := Nat.toDigits 10 exponent.natAbs
  letter :: (if exponent < 0 then '-' else '+') :: (List.replicate (2 - digits.length) '0' ++ digits)

/-- A number with a point, without the zeros at its end. -/
def withoutZeros (text : List Char) : List Char :=
  if text.contains '.' then
    let kept := (text.reverse.dropWhile (· = '0')).reverse
    if kept.getLast? = some '.' then kept.dropLast else kept
  else text

/-- The absolute value of a number of steps, as the directive asks for. -/
def finite (d : Directive) (steps : Nat) : List Char :=
  let letter := if d.kind.isUpper then 'E' else 'e'
  let places := d.precision.getD 6
  let unit := Binary64.stepsPerUnit
  match d.kind.toLower with
  | 'f' => fixed (d.has '#') places steps unit
  | 'e' =>
    let (digits, exponent) := if steps = 0 then (0, 0) else scientificParts places steps unit
    point (d.has '#') places (List.replicate (places + 1 - (Nat.toDigits 10 digits).length) '0'
      ++ Nat.toDigits 10 digits) ++ exponentText letter exponent
  | _ =>
    let count := max places 1
    let (digits, exponent) := if steps = 0 then (0, 0) else scientificParts (count - 1) steps unit
    let shorten (text : List Char) : List Char := if d.has '#' then text else withoutZeros text
    if exponent < -4 || (count : Int) ≤ exponent then
      shorten (point (d.has '#') (count - 1) (Nat.toDigits 10 digits))
        ++ exponentText letter exponent
    else shorten (fixed (d.has '#') (count - 1 - exponent).toNat steps unit)

/-- A binary floating point number. -/
def real (d : Directive) (x : Binary64) : List Char :=
  let raise (text : String) : List Char :=
    if d.kind.isUpper then text.toList.map Char.toUpper else text.toList
  if x.isNaN then d.padNumber false (d.sign x.isNegative) (raise "nan")
  else if x.isFinite then
    d.padNumber true (d.sign x.isNegative) (d.finite (Binary64.steps x.magnitude))
  else d.padNumber false (d.sign x.isNegative) (raise "inf")

end Directive

/-! ## Formats -/

/-- Printing with a format: what is printed, the arguments left, what there is
    to complain about, and whether printing has ended. -/
structure Printing where
  printed : Array Char := .empty
  arguments : List String
  complaints : List String := []
  ended : Bool := false
  /-- An argument is no number. -/
  failed : Bool := false
  /-- A directive is malformed. -/
  broken : Bool := false

namespace Printing

/-- Goes on with text. -/
def print (p : Printing) (text : List Char) : Printing :=
  { p with printed := text.foldl Array.push p.printed }

/-- Takes the next argument. -/
def next (p : Printing) : Option String × Printing :=
  (p.arguments.head?, { p with arguments := p.arguments.drop 1 })

/-- Complains if not all of an argument was used as a number. -/
def check (p : Printing) (argument : String) (rest : List Char) : Printing :=
  if rest = [] then p
  else
    let complaint := if rest.length = argument.length then ": expected numeric value"
      else ": not completely converted"
    { p with complaints := p.complaints ++ [argument ++ complaint], failed := true }

/-- Blanks at the front of a number do not count. -/
def isGap (c : Char) : Bool :=
  c = ' ' || ('\t' ≤ c && c ≤ '\r')

/-- Takes the next argument as a whole number, one with a sign or one without;
    a quote stands for the number of the byte behind it. -/
def nextInteger (p : Printing) (signed : Bool) : Int × Printing :=
  match p.next with
  | (none, p) => (0, p)
  | (some argument, p) =>
    match argument.toList with
    | '"' :: rest | '\'' :: rest => ((rest.head?.map (·.toNat)).getD 0, p)
    | text =>
      let inner := text.dropWhile isGap
      let (negative, digits) := Numeral.splitSign inner
      if digits.head?.any Char.isDigit then
        let (value, rest) := Arithmetic.readNumber digits
        let value : Int := if negative then -(value : Int) else value
        let least : Int := if signed then -0x8000000000000000 else -0xFFFFFFFFFFFFFFFF
        let most : Int := if signed then 0x7FFFFFFFFFFFFFFF else 0xFFFFFFFFFFFFFFFF
        let p := p.check argument rest
        if rest = [] && (value < least || most < value) then
          let complaint := argument ++ ": Numerical result out of range"
          (max least (min most value),
            { p with complaints := p.complaints ++ [complaint], failed := true })
        else (max least (min most value), p)
      else (0, p.check argument text)

/-- Takes the next argument as a number. -/
def nextReal (p : Printing) : Binary64 × Printing :=
  match p.next with
  | (none, p) => (.zero, p)
  | (some argument, p) =>
    match argument.toList with
    | '"' :: rest | '\'' :: rest =>
      (.ofMagnitude false (Binary64.nearest ((rest.head?.map (·.toNat)).getD 0) 1), p)
    | text =>
      let inner := text.dropWhile isGap
      let lengths := (List.range (inner.length + 1)).reverse
      match lengths.findSome? fun n => (Binary64.read? (inner.take n)).map (·, inner.drop n) with
      | some (x, rest) => (x, p.check argument rest)
      | none => (.zero, p.check argument text)

/-- Breaks off because a directive is malformed. -/
def breakOff (p : Printing) (complaint : String) : Printing :=
  { p with complaints := p.complaints ++ [complaint], ended := true, broken := true }

/-- Takes a number off a format: digits, or a star for an argument. -/
def readCount (p : Printing) : List Char → Option Int × Printing × List Char
  | '*' :: rest =>
    let (count, p) := p.nextInteger true
    (some count, p, rest)
  | text =>
    let digits := text.takeWhile Char.isDigit
    (if digits = [] then none else some (Nat.ofDigitChars 10 digits 0), p,
      text.dropWhile Char.isDigit)

/-- Fills in a directive. -/
def fill (p : Printing) (d : Directive) (written : List Char) : Printing :=
  if ['d', 'i', 'o', 'u', 'x', 'X'].contains d.kind then
    let (value, p) := p.nextInteger (d.kind = 'd' || d.kind = 'i')
    p.print (d.integer value)
  else if ['e', 'E', 'f', 'F', 'g', 'G'].contains d.kind then
    let (value, p) := p.nextReal
    p.print (d.real value)
  else
    match d.kind with
    | 's' =>
      let (argument, p) := p.next
      p.print (d.text (argument.getD ""))
    | 'b' =>
      let (argument, p) := p.next
      let text := (argument.getD "").toList
      let (text, ended) := unescape (text.length + 1) text
      { p.print (d.text (String.ofList text)) with ended := ended }
    | 'c' =>
      let (argument, p) := p.next
      p.print (d.pad [((argument.bind (·.toList.head?)).getD '\x00')])
    | _ => p.breakOff (String.ofList written ++ ": invalid directive")

/-- Goes once through a format. The fuel is its length. -/
def through : (fuel : Nat) → List Char → Printing → Printing
  | 0, _, p => p
  | _, [], p => p
  | fuel + 1, '\\' :: rest, p =>
    let (byte, rest) := escapeAt rest
    through fuel rest (p.print [byte])
  | fuel + 1, '%' :: '%' :: rest, p => through fuel rest (p.print ['%'])
  | fuel + 1, '%' :: text, p =>
    let isFlag (c : Char) : Bool := ['#', '-', '+', ' ', '0'].contains c
    let (width, p, rest) := p.readCount (text.dropWhile isFlag)
    let (precision, p, rest) :=
      match rest with
      | '.' :: rest =>
        let (precision, p, rest) := p.readCount rest
        (some (precision.getD 0), p, rest)
      | rest => (none, p, rest)
    match rest with
    | [] => p.breakOff "missing format character"
    | kind :: rest =>
      let width := width.getD 0
      let flags := text.takeWhile isFlag ++ if width < 0 then ['-'] else []
      let precision := precision.bind fun count => if count < 0 then none else some count.toNat
      let p := p.fill ⟨flags, width.natAbs, precision, kind⟩
        ('%' :: text.take (text.length - rest.length))
      if p.ended then p else through fuel rest p
  | fuel + 1, c :: rest, p => through fuel rest (p.print [c])

/-- Goes through a format until all arguments are used up. The fuel is the
    number of arguments. -/
def repeatedly (format : List Char) : (fuel : Nat) → Printing → Printing
  | 0, p => through (format.length + 1) format p
  | fuel + 1, p =>
    let after := through (format.length + 1) format p
    if after.ended || after.arguments = [] || after.arguments.length = p.arguments.length then after
    else repeatedly format fuel after

end Printing

/-- What `printf` prints. -/
def printf (format : String) (arguments : List String) : Printing :=
  Printing.repeatedly format.toList arguments.length { arguments := arguments }

end RenderCheck.Script
