import RenderCheck.Regex.Basic
import RenderCheck.Regex.Fault

/-! # Written patterns

    A pattern as it is written, before the flags are taken into account.
    Whatever can turn out to be wrong only then keeps its place. -/

namespace RenderCheck.Regex

/-- A way to read a pattern that can be turned on and off in it. -/
inductive Flag where
  /-- Letters stand for both cases. -/
  | anyCase
  /-- Lines have beginnings and ends of their own. -/
  | manyLines
  /-- The dot stands for line ends too. -/
  | dotAll
  /-- Repetitions are as short as possible unless they say otherwise. -/
  | swapGreed
  | unicode
  /-- Carriage returns end lines too. -/
  | anyLineEnd
  /-- Blanks and comments mean nothing. -/
  | verbose
  deriving DecidableEq

namespace Flag

/-- The letters of the flags. -/
def letters : List (Char × Flag) :=
  [('i', anyCase), ('m', manyLines), ('s', dotAll), ('U', swapGreed), ('u', unicode),
   ('R', anyLineEnd), ('x', verbose)]

end Flag

/-- Flags that are turned on or off. -/
abbrev FlagSettings := List (Flag × Bool)

/-- A class that depends on whether characters or bytes are matched. -/
inductive ShortClass where
  | digit
  | blank
  | word
  deriving DecidableEq

/-- A condition on a place as it is written. -/
inductive Mark where
  | textStart
  | textEnd
  | lineStart
  | lineEnd
  | word (place : WordPlace)
  deriving DecidableEq

/-- A part of a pattern that has no parts. -/
inductive Primitive where
  /-- A character; it may be written as the number of a byte. -/
  | literal (extent : Extent) (char : Char) (isByte : Bool)
  | dot (extent : Extent)
  | mark (extent : Extent) (mark : Mark)
  | short (extent : Extent) (kind : ShortClass) (negated : Bool)
  /-- A class given by a property of Unicode. -/
  | property (extent : Extent) (name : String) (negated : Bool)
  deriving DecidableEq

/-- Where the part stands. -/
def Primitive.extent : Primitive → Extent
  | literal extent _ _ => extent
  | dot extent => extent
  | mark extent _ => extent
  | short extent _ _ => extent
  | property extent _ _ => extent

/-- How two sets are combined. -/
inductive SetOperator where
  | intersection
  | difference
  | symmetricDifference
  deriving DecidableEq

/-- A set of characters as it is written. -/
inductive SetAst where
  | nothing
  | literal (extent : Extent) (char : Char) (isByte : Bool)
  | range (lowExtent highExtent : Extent) (low high : Char) (lowIsByte highIsByte : Bool)
  /-- An ASCII class. -/
  | named (set : CharSet) (negated : Bool)
  | short (extent : Extent) (kind : ShortClass) (negated : Bool)
  | property (extent : Extent) (name : String) (negated : Bool)
  | union (a b : SetAst)
  | operation (operator : SetOperator) (a b : SetAst)
  | bracketed (extent : Extent) (negated : Bool) (inner : SetAst)
  deriving DecidableEq

/-- A pattern as it is written. -/
inductive Ast where
  | empty
  | primitive (primitive : Primitive)
  | set (extent : Extent) (negated : Bool) (inner : SetAst)
  /-- Flags that hold from here on. -/
  | flags (settings : FlagSettings)
  | repetition (least : Nat) (most : Option Nat) (greedy : Bool) (sub : Ast)
  /-- A group and the flags that hold inside of it. It has a number if what it
      matches is kept. -/
  | group (number : Option Nat) (settings : FlagSettings) (sub : Ast)
  | concat (a b : Ast)
  | alternation (a b : Ast)
  deriving DecidableEq

namespace Ast

/-- Parts one after the other. -/
def ofItems : List Ast → Ast
  | [] => empty
  | [item] => item
  | item :: items => concat item (ofItems items)

/-- One of several parts. -/
def ofAlternatives : List Ast → Ast
  | [] => empty
  | [item] => item
  | item :: items => alternation item (ofAlternatives items)

/-- The part can be repeated. -/
def isOperand : Ast → Bool
  | empty => false
  | flags _ => false
  | _ => true

end Ast

end RenderCheck.Regex
