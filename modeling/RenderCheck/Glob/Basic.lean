/-! # File name patterns

    A pattern is a sequence of tokens. `?` stands for any one character, `*`
    for any text, `[set]` and `[!set]` for one character in or not in a set,
    and `**`, alone between separators, for any number of directories. Every
    other character stands for itself. -/

namespace RenderCheck.Glob

/-- One item of a set: the characters from the first to the last. -/
structure Range where
  first : Char
  last : Char
  deriving DecidableEq

/-- The character lies in the range; none lies in a reversed one. -/
def Range.contains (r : Range) (c : Char) : Bool :=
  r.first ≤ c && c ≤ r.last

/-- One piece of a pattern. -/
inductive Token where
  /-- A character that stands for itself. -/
  | literal (c : Char)
  /-- Any one character. -/
  | anyChar
  /-- Any text. -/
  | anyText
  /-- Any number of whole directories, or all that is left. -/
  | anyDirectories
  /-- One character of the set. -/
  | oneOf (set : List Range)
  /-- One character outside the set. -/
  | noneOf (set : List Range)
  deriving DecidableEq

/-- A pattern: its tokens from left to right. -/
structure Pattern where
  tokens : List Token
  deriving DecidableEq

/-! ## Matching -/

/-- The tails of a text, the text itself first and the empty one last. -/
def tails : List Char → List (List Char)
  | [] => [[]]
  | c :: rest => (c :: rest) :: tails rest

/-- What may be left of a text after any number of directories: all of it,
    what follows some separator, or nothing. -/
def afterDirectories (text : List Char) : List (List Char) :=
  text :: ((tails text).filterMap fun
    | '/' :: rest => some rest
    | _ => none) ++ [[]]

/-- Takes one character that passes the test off every text. -/
def takeChar (test : Char → Bool) (texts : List (List Char)) : List (List Char) :=
  texts.filterMap fun
    | c :: rest => if test c then some rest else none
    | [] => none

/-- The texts that may be left once a token has taken its share, given those
    that may be left before it. All of them are tails of one text, the longest
    comes first, and none is listed twice. -/
def Token.leave (texts : List (List Char)) : Token → List (List Char)
  | .literal c => takeChar (· == c) texts
  | .anyChar => takeChar (fun _ => true) texts
  | .oneOf set => takeChar (fun c => set.any (·.contains c)) texts
  | .noneOf set => takeChar (fun c => !set.any (·.contains c)) texts
  | .anyText =>
    match texts with
    | [] => []
    | longest :: _ => tails longest
  | .anyDirectories =>
    match texts with
    | [] => []
    | longest :: _ =>
      let left := texts.flatMap afterDirectories
      (tails longest).filter left.contains

/-- The pattern stands for the whole text. -/
def Pattern.accepts (p : Pattern) (text : List Char) : Bool :=
  (p.tokens.foldl Token.leave [text]).contains []

end RenderCheck.Glob
