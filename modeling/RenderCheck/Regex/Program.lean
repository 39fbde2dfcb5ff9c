import RenderCheck.Regex.Basic

/-! # Matching

    A pattern is turned into a program of steps: take a character, pass if a
    condition holds, try one way and then another, mark the place where a group
    begins or ends. The program is run by threads, of which those further to the
    front count more. A thread begins at every character of the text, behind
    those that began earlier. As soon as a thread has come to the end of the
    pattern, the threads behind it are given up; so the match found is the
    leftmost one, and of those that begin there the one by the first way. -/

namespace RenderCheck.Regex

/-- One end of what a group matches. -/
inductive GroupEnd where
  | start (number : Nat)
  | stop (number : Nat)
  deriving DecidableEq

/-- One step of a program; steps are numbered. -/
inductive Instruction where
  /-- Takes a character of a set. -/
  | take (set : CharSet) (next : Nat)
  /-- Goes on if a condition holds. -/
  | pass (condition : Condition) (next : Nat)
  /-- Tries one way before the other. -/
  | fork (first second : Nat)
  /-- Marks the place in the text. -/
  | mark (mark : GroupEnd) (next : Nat)
  /-- The end of the pattern. -/
  | done
  deriving DecidableEq, Inhabited

/-- A program, and where it begins. -/
structure Program where
  steps : Array Instruction
  start : Nat

namespace Program

/-! ## Building -/

/-- Builds the steps before those at a number: the new beginning and all
    steps. -/
abbrev Builder := Nat → Array Instruction → Nat × Array Instruction

/-- Adds a step. -/
def push (step : Instruction) (steps : Array Instruction) : Nat × Array Instruction :=
  (steps.size, steps.push step)

/-- A fork that tries to go on first, or to leave. -/
def forkOf (greedy : Bool) (on_ leave : Nat) : Instruction :=
  if greedy then .fork on_ leave else .fork leave on_

/-- The same steps so many times. -/
def times (sub : Builder) : (count : Nat) → Builder
  | 0, next, steps => (next, steps)
  | count + 1, next, steps =>
    let (next, steps) := times sub count next steps
    sub next steps

/-- The same steps so many times or fewer. -/
def atMost (greedy : Bool) (sub : Builder) (leave : Nat) : (count : Nat) → Builder
  | 0, next, steps => (next, steps)
  | count + 1, next, steps =>
    let (next, steps) := atMost greedy sub leave count next steps
    let (start, steps) := sub next steps
    push (forkOf greedy start leave) steps

/-- The same steps once or more. -/
def oneOrMore (greedy : Bool) (sub : Builder) : Builder := fun next steps =>
  let (fork, steps) := push .done steps
  let (start, steps) := sub fork steps
  (start, steps.setIfInBounds fork (forkOf greedy start next))

/-- The same steps any number of times. Steps that may take no character are
    tried once or more, or not at all. -/
def anyNumber (greedy nullable : Bool) (sub : Builder) : Builder := fun next steps =>
  if nullable then
    let (start, steps) := oneOrMore greedy sub next steps
    push (forkOf greedy start next) steps
  else
    let (fork, steps) := push .done steps
    let (start, steps) := sub fork steps
    (fork, steps.setIfInBounds fork (forkOf greedy start next))

/-- The steps of a pattern. -/
def build : Pattern → Builder
  | .empty, next, steps => (next, steps)
  | .set set, next, steps => push (.take set next) steps
  | .condition condition, next, steps => push (.pass condition next) steps
  | .concat a b, next, steps =>
    let (next, steps) := build b next steps
    build a next steps
  | .alternation a b, next, steps =>
    let (first, steps) := build a next steps
    let (second, steps) := build b next steps
    push (.fork first second) steps
  | .repetition least most greedy sub, next, steps =>
    match most with
    | some most =>
      let (next, steps) := atMost greedy (build sub) next (most - least) next steps
      times (build sub) least next steps
    | none =>
      if least = 0 then anyNumber greedy sub.isNullable (build sub) next steps
      else
        let (next, steps) := oneOrMore greedy (build sub) next steps
        times (build sub) (least - 1) next steps
  | .group number sub, next, steps =>
    let (stop, steps) := push (.mark (.stop number) next) steps
    let (start, steps) := build sub stop steps
    push (.mark (.start number) start) steps

/-- The program of a pattern. -/
def ofPattern (pattern : Pattern) : Program :=
  let (start, steps) := build pattern 0 #[.done]
  ⟨steps, start⟩

/-! ## Running -/

/-- Places in a text that were marked, the last one first. -/
abbrev Marks := List (GroupEnd × Nat)

/-- A thread: the step that is next, and the places it has marked. -/
structure Thread where
  step : Nat
  marks : Marks
  deriving DecidableEq

/-- What was found: where the match ends, and the places marked on the way. -/
structure Match where
  stop : Nat
  marks : Marks
  deriving DecidableEq

/-- Follows steps that take no character, at a place between two characters.
    Each step is followed once, by the first thread that comes to it; the
    threads found stand last first. The fuel bounds the steps followed. -/
def follow (p : Program) (before after : Option Char) (place : Nat) : (fuel : Nat) →
    (toDo : List Thread) → (seen : Array Bool) → (threads : List Thread) → List Thread
  | 0, _, _, threads => threads
  | _, [], _, threads => threads
  | fuel + 1, thread :: toDo, seen, threads =>
    if seen.getD thread.step true then p.follow before after place fuel toDo seen threads
    else
      let seen := seen.setIfInBounds thread.step true
      match p.steps.getD thread.step .done with
      | .take _ _ => p.follow before after place fuel toDo seen (thread :: threads)
      | .done => p.follow before after place fuel toDo seen (thread :: threads)
      | .pass condition next =>
        let onward := if condition.holds before after then [{ thread with step := next }] else []
        p.follow before after place fuel (onward ++ toDo) seen threads
      | .fork first second =>
        let ways := [{ thread with step := first }, { thread with step := second }]
        p.follow before after place fuel (ways ++ toDo) seen threads
      | .mark mark next =>
        p.follow before after place fuel (⟨next, (mark, place) :: thread.marks⟩ :: toDo) seen
          threads

/-- All threads that some threads become before they take a character. -/
def settle (p : Program) (before after : Option Char) (place : Nat) (threads : List Thread) :
    List Thread :=
  let fuel := threads.length + 2 * p.steps.size + 1
  (p.follow before after place fuel threads (Array.replicate p.steps.size false) []).reverse

/-- The thread is at the end of the pattern. -/
def isDone (p : Program) (thread : Thread) : Bool :=
  p.steps.getD thread.step .done = .done

/-- How a thread goes on behind a character. -/
def step? (p : Program) (c : Char) (thread : Thread) : Option Thread :=
  match p.steps.getD thread.step .done with
  | .take set next => if set.has c.toNat then some { thread with step := next } else none
  | _ => none

/-- Until something is found, a new thread begins behind the others. -/
def beginning (p : Program) (found : Option Match) (threads : List Thread) : List Thread :=
  if found.isNone then threads ++ [⟨p.start, []⟩] else threads

/-- What is found once threads have settled at a place: where the first one that
    is at the end of the pattern is, or else what was found before. -/
def update (p : Program) (place : Nat) (threads : List Thread) (found : Option Match) :
    Option Match :=
  ((threads.find? p.isDone).map fun thread => ⟨place, thread.marks⟩).or found

/-- Runs threads over a text from a place on. The last match found is the one
    that counts, as the threads behind earlier ones were given up. -/
def run (p : Program) : (before : Option Char) → (place : Nat) → (threads : List Thread) →
    (found : Option Match) → List Char → Option Match
  | before, place, threads, found, [] =>
    p.update place (p.settle before none place (p.beginning found threads)) found
  | before, place, threads, found, c :: rest =>
    let threads := p.settle before (some c) place (p.beginning found threads)
    let front := threads.takeWhile (!p.isDone ·)
    p.run (some c) (place + 1) (front.filterMap (p.step? c)) (p.update place threads found) rest

end Program

namespace Pattern

open Program

/-- The leftmost match in a text. -/
def find? (pattern : Pattern) (text : List Char) : Option Match :=
  (Program.ofPattern pattern).run none 0 [] none text

/-- The pattern matches a text up to its end. -/
def accepts (pattern : Pattern) (text : List Char) : Bool :=
  (pattern.find? text).any (·.stop = text.length)

/-- What a group of the leftmost match in a text has matched, if it has a part in
    the match. -/
def capture? (pattern : Pattern) (number : Nat) (text : List Char) : Option (List Char) := do
  let found ← pattern.find? text
  let start ← found.marks.lookup (.start number)
  let stop ← found.marks.lookup (.stop number)
  return (text.take stop).drop start

end Pattern

end RenderCheck.Regex
