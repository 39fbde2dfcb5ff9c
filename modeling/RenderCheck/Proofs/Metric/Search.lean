import RenderCheck.Metric

/-! # Searching for the parenthesis

    The pattern of a metric is searched for by threads, but a look at two
    characters is all that it takes: the search ends at the first opening
    parenthesis with something other than another one directly before it and
    something other than a closing one directly behind it.

    * **The pattern** can be read, and is a program of ten steps.
    * **Phases**: what the threads are up to outside of the parenthesis.
    * **The scan**: `parenthesized?` says what is found without any threads.
    * **Inside**: once a thread has come into the parenthesis, no other one counts
      (`run_inside`).
    * **Outside**: until then each phase goes on as the scan does (`run_phase`), so
      that what is captured is what the scan finds (`captured?_eq`). -/

namespace RenderCheck

open Regex Regex.Program

namespace Metric

/-! ## The pattern -/

/-- All characters but an opening parenthesis. -/
def notOpening : CharSet :=
  .complement (.union .nothing (.single 40))

/-- All characters but a closing parenthesis. -/
def notClosing : CharSet :=
  .complement (.union .nothing (.single 41))

/-- What the text of the pattern stands for. -/
def pattern : Pattern :=
  .concat (.group 1 (.repetition 1 none true (.set notOpening)))
    (.concat (.set (.single 40)) (.group 2 (.repetition 1 none true (.set notClosing))))

theorem pattern?_eq : pattern? = some pattern := by
  decide +kernel

/-- The steps of the pattern: from the last one, where it begins, down to the
    first one, where it ends. -/
def program : Program where
  steps := #[
    .done,
    .mark (.stop 2) 0,
    .fork 3 1,
    .take notClosing 2,
    .mark (.start 2) 3,
    .take (.single 40) 4,
    .mark (.stop 1) 5,
    .fork 8 6,
    .take notOpening 7,
    .mark (.start 1) 8]
  start := 9

theorem ofPattern_pattern : Program.ofPattern pattern = program := rfl

@[simp] theorem has_notOpening (c : Char) : notOpening.has c.toNat = decide (c ≠ '(') := by
  simp [notOpening, CharSet.has, ← Char.toNat_inj]

@[simp] theorem has_notClosing (c : Char) : notClosing.has c.toNat = decide (c ≠ ')') := by
  simp [notClosing, CharSet.has, ← Char.toNat_inj]

/-! ## Phases -/

/-- What the threads are up to outside of the parenthesis. -/
inductive Phase where
  /-- There is no thread. -/
  | idle
  /-- The last character is not an opening parenthesis. -/
  | before (marks : Marks)
  /-- The last character is an opening parenthesis, the one before is not. -/
  | opened (marks : Marks)

namespace Phase

/-- The threads of the phase. -/
def threads : Phase → List Thread
  | idle => []
  | before marks => [⟨7, marks⟩]
  | opened marks => [⟨4, marks⟩]

/-- What has been passed that can have a part in what the scan finds. Of a
    character that is not an opening parenthesis it does not matter which one it
    is. -/
def passed : Phase → List Char
  | idle => []
  | before _ => ['-']
  | opened _ => ['-', '(']

end Phase

/-! ## The scan -/

/-- The text in the first parenthesis that has something other than another
    opening one directly before it and something other than a closing one
    directly after it. -/
def parenthesized? : List Char → Option (List Char)
  | before :: '(' :: first :: rest =>
    if before ≠ '(' ∧ first ≠ ')' then some ((first :: rest).takeWhile (· ≠ ')'))
    else parenthesized? ('(' :: first :: rest)
  | _ :: rest => parenthesized? rest
  | [] => none

section Scan

variable {c d : Char} {rest : List Char}

/-- Nothing is found by an opening parenthesis before it. -/
theorem parenthesized?_opening : parenthesized? ('(' :: rest) = parenthesized? rest := by
  rw [parenthesized?.eq_def ('(' :: rest)]
  split
  · next hcons =>
    obtain ⟨rfl, rfl⟩ := List.cons_eq_cons.1 hcons
    rw [if_neg fun hboth => hboth.1 rfl]
  · next hcons => rw [(List.cons_eq_cons.1 hcons).2]
  · next hcons => cases hcons

/-- Only an opening parenthesis makes a difference to what stands before it. -/
theorem parenthesized?_cons_of_ne (hd : d ≠ '(') :
    parenthesized? (c :: d :: rest) = parenthesized? (d :: rest) := by
  rw [parenthesized?.eq_def (c :: d :: rest)]
  split <;> simp_all

/-- It does not matter what stands before it, as long as it is not another
    one. -/
theorem parenthesized?_cons_congr (hc : c ≠ '(') (hd : d ≠ '(') :
    parenthesized? (c :: rest) = parenthesized? (d :: rest) := by
  rw [parenthesized?.eq_def (c :: rest), parenthesized?.eq_def (d :: rest)]
  split <;> simp_all

end Scan

/-! ## Steps -/

section Steps

variable (c : Char) (marks : Marks)

@[simp] theorem step?_outside :
    program.step? c ⟨8, marks⟩ = if c = '(' then none else some ⟨7, marks⟩ := by
  have hstep : program.step? c ⟨8, marks⟩
      = if notOpening.has c.toNat then some ⟨7, marks⟩ else none := rfl
  rw [hstep, has_notOpening]
  simp

@[simp] theorem step?_opening :
    program.step? c ⟨5, marks⟩ = if c = '(' then some ⟨4, marks⟩ else none := by
  have hstep : program.step? c ⟨5, marks⟩
      = if (CharSet.single 40).has c.toNat then some ⟨4, marks⟩ else none := rfl
  rw [hstep, CharSet.has_single]
  simp [← Char.toNat_inj]

@[simp] theorem step?_inside :
    program.step? c ⟨3, marks⟩ = if c = ')' then none else some ⟨2, marks⟩ := by
  have hstep : program.step? c ⟨3, marks⟩
      = if notClosing.has c.toNat then some ⟨2, marks⟩ else none := rfl
  rw [hstep, has_notClosing]
  simp

@[simp] theorem isDone_outside : program.isDone ⟨8, marks⟩ = false := by
  simp [isDone, program]

@[simp] theorem isDone_opening : program.isDone ⟨5, marks⟩ = false := by
  simp [isDone, program]

@[simp] theorem isDone_inside : program.isDone ⟨3, marks⟩ = false := by
  simp [isDone, program]

@[simp] theorem isDone_end : program.isDone ⟨0, marks⟩ = true := by
  simp [isDone, program]

end Steps

/-! ## Settled threads -/

section Settle

variable (before after : Option Char) (place : Nat) (marks more : Marks)

@[simp] theorem settle_nil : program.settle before after place [] = [] := by
  simp [settle, follow]

@[simp] theorem settle_idle :
    program.settle before after place [⟨9, []⟩] = [⟨8, [(.start 1, place)]⟩] := by
  simp [settle, follow, program]

@[simp] theorem settle_before :
    program.settle before after place [⟨7, marks⟩, ⟨9, []⟩]
      = [⟨8, marks⟩, ⟨5, (.stop 1, place) :: marks⟩] := by
  simp [settle, follow, program]

@[simp] theorem settle_opened :
    program.settle before after place [⟨4, marks⟩, ⟨9, []⟩]
      = [⟨3, (.start 2, place) :: marks⟩, ⟨8, [(.start 1, place)]⟩] := by
  simp [settle, follow, program]

@[simp] theorem settle_inside :
    program.settle before after place [⟨2, marks⟩]
      = [⟨3, marks⟩, ⟨0, (.stop 2, place) :: marks⟩] := by
  simp [settle, follow, program]

@[simp] theorem settle_inside_idle :
    program.settle before after place [⟨2, marks⟩, ⟨9, []⟩]
      = [⟨3, marks⟩, ⟨0, (.stop 2, place) :: marks⟩, ⟨8, [(.start 1, place)]⟩] := by
  simp [settle, follow, program]

@[simp] theorem settle_inside_before :
    program.settle before after place [⟨2, marks⟩, ⟨7, more⟩, ⟨9, []⟩]
      = [⟨3, marks⟩, ⟨0, (.stop 2, place) :: marks⟩,
          ⟨8, more⟩, ⟨5, (.stop 1, place) :: more⟩] := by
  simp [settle, follow, program]

end Settle

/-- Before anything is found a new thread stands behind the others. -/
@[simp] theorem beginning_none (threads : List Thread) :
    program.beginning none threads = threads ++ [⟨9, []⟩] := rfl

@[simp] theorem beginning_some (found : Match) (threads : List Thread) :
    program.beginning (some found) threads = threads := rfl

/-! ## Inside -/

section Inside

variable {before : Option Char} {place : Nat} {marks : Marks}

/-- Nothing changes without threads once something is found. -/
theorem run_no_threads (found : Match) (rest : List Char) :
    program.run before place [] (some found) rest = some found := by
  induction rest generalizing before place with
  | nil => simp [run, update]
  | cons c rest ih => simp [run, update, ih]

/-- Once a thread has taken a character of the parenthesis it is in front of all
    others, so these are given up. What is found ends before the next closing
    parenthesis, or where the text does. -/
theorem run_inside {threads behind : List Thread} {found : Option Match}
    (hsettle : ∀ after, program.settle before after place (program.beginning found threads)
      = ⟨3, marks⟩ :: ⟨0, (.stop 2, place) :: marks⟩ :: behind) (rest : List Char) :
    program.run before place threads found rest
      = let stop := place + (rest.takeWhile (· ≠ ')')).length
        some ⟨stop, (.stop 2, stop) :: marks⟩ := by
  induction rest generalizing before place threads found behind with
  | nil => simp [run, hsettle, update]
  | cons c rest ih =>
    have hstep : program.run before place threads found (c :: rest)
        = program.run (some c) (place + 1) ([⟨3, marks⟩].filterMap (program.step? c))
            (some ⟨place, (.stop 2, place) :: marks⟩) rest := by
      simp [run, hsettle, update]
    rw [hstep]
    by_cases hc : c = ')'
    · simp [hc, run_no_threads]
    · have hinside : [⟨3, marks⟩].filterMap (program.step? c) = [⟨2, marks⟩] := by simp [hc]
      have hnext : ∀ after, program.settle (some c) after (place + 1)
            (program.beginning (some ⟨place, (.stop 2, place) :: marks⟩) [⟨2, marks⟩])
          = [⟨3, marks⟩, ⟨0, (.stop 2, place + 1) :: marks⟩] := by simp
      rw [hinside, ih hnext]
      simp [hc, Nat.add_assoc, Nat.add_comm]

end Inside

/-! ## Outside -/

/-- What the second group of a match is in a text. -/
def part? (text : List Char) (found : Match) : Option (List Char) := do
  let start ← found.marks.lookup (.start 2)
  let stop ← found.marks.lookup (.stop 2)
  return (text.take stop).drop start

/-- A match that ends behind so much of what follows a place has all of that in
    its second group, if the group begins there. -/
theorem part?_inside (front rest : List Char) (marks : Marks) :
    let stop := front.length + (rest.takeWhile (· ≠ ')')).length
    part? (front ++ rest) ⟨stop, (.stop 2, stop) :: (.start 2, front.length) :: marks⟩
      = some (rest.takeWhile (· ≠ ')')) := by
  intro stop
  have hpart : part? (front ++ rest) ⟨stop, (.stop 2, stop) :: (.start 2, front.length) :: marks⟩
      = some (((front ++ rest).take stop).drop front.length) := rfl
  have htake := List.prefix_iff_eq_take.1 (List.takeWhile_prefix (l := rest) (· ≠ ')'))
  rw [hpart, List.take_length_add_append, List.drop_left, ← htake]

theorem captured?_eq_bind (text : List Char) :
    captured? text = (program.run none 0 [] none text).bind (part? text) := by
  rw [captured?, pattern?_eq, ← ofPattern_pattern]
  rfl

section Steps

variable (before : Option Char) (place : Nat) (marks : Marks) (c : Char) (rest : List Char)

theorem run_idle :
    program.run before place Phase.idle.threads none (c :: rest)
      = program.run (some c) (place + 1)
          (if c = '(' then Phase.idle else .before [(.start 1, place)]).threads none rest := by
  split <;> simp [Phase.threads, run, update, *]

theorem run_before :
    program.run before place (Phase.before marks).threads none (c :: rest)
      = program.run (some c) (place + 1)
          (if c = '(' then Phase.opened ((.stop 1, place) :: marks) else .before marks).threads
          none rest := by
  split <;> simp [Phase.threads, run, update, *]

/-- An empty parenthesis stands before what follows like any other text. -/
theorem run_opened_of_eq (hc : c = ')') :
    program.run before place (Phase.opened marks).threads none (c :: rest)
      = program.run (some c) (place + 1) (Phase.before [(.start 1, place)]).threads none rest := by
  simp [Phase.threads, run, update, hc]

/-- Whatever is behind a thread in the parenthesis, it has settled in front. -/
theorem settle_entered (phase : Phase) (hphase : ∀ marks, phase ≠ .opened marks) :
    ∃ behind, ∀ after, program.settle before after place
        (program.beginning none (⟨2, marks⟩ :: phase.threads))
      = ⟨3, marks⟩ :: ⟨0, (.stop 2, place) :: marks⟩ :: behind := by
  cases phase with
  | idle => exact ⟨_, fun after => settle_inside_idle before after place marks⟩
  | before more => exact ⟨_, fun after => settle_inside_before before after place marks more⟩
  | opened more => exact absurd rfl (hphase more)

/-- The first character in a parenthesis decides that it is the one. -/
theorem run_opened_of_ne (hc : c ≠ ')') :
    program.run before place (Phase.opened marks).threads none (c :: rest)
      = let stop := place + ((c :: rest).takeWhile (· ≠ ')')).length
        some ⟨stop, (.stop 2, stop) :: (.start 2, place) :: marks⟩ := by
  have hentered : program.run before place (Phase.opened marks).threads none (c :: rest)
      = program.run (some c) (place + 1)
          (⟨2, (.start 2, place) :: marks⟩
            :: (if c = '(' then Phase.idle else .before [(.start 1, place)]).threads)
          none rest := by
    split <;> simp [Phase.threads, run, update, *]
  obtain ⟨_, hsettle⟩ := settle_entered (some c) (place + 1) ((.start 2, place) :: marks)
    (if c = '(' then Phase.idle else .before [(.start 1, place)]) (by split <;> simp)
  rw [hentered, run_inside hsettle]
  simp [hc, Nat.add_assoc, Nat.add_comm]

end Steps

/-- In each phase the threads find what the scan does. -/
theorem run_phase (phase : Phase) (before : Option Char) (front rest : List Char) :
    (program.run before front.length phase.threads none rest).bind (part? (front ++ rest))
      = parenthesized? (phase.passed ++ rest) := by
  induction rest generalizing phase before front with
  | nil =>
    cases phase with
    | idle => simp [Phase.threads, Phase.passed, run, update, parenthesized?]
    | before marks => simp [Phase.threads, Phase.passed, run, update, parenthesized?]
    | opened marks => simp [Phase.threads, Phase.passed, run, update, parenthesized?]
  | cons c rest ih =>
    have hnext (phase : Phase) : (program.run (some c) (front.length + 1) phase.threads none
        rest).bind (part? (front ++ c :: rest)) = parenthesized? (phase.passed ++ rest) := by
      simpa using ih phase (some c) (front ++ [c])
    -- in each phase the character leads to a phase in which it has been passed
    cases phase with
    | idle =>
      rw [run_idle, hnext]
      split
      · next hc => rw [hc, Phase.passed, List.nil_append, List.nil_append, parenthesized?_opening]
      · next hc => exact parenthesized?_cons_congr (by decide) hc
    | before marks =>
      rw [run_before, hnext]
      split
      · next hc => rw [hc]; rfl
      · next hc =>
        have hpassed : parenthesized? ('-' :: c :: rest) = parenthesized? (c :: rest) :=
          parenthesized?_cons_of_ne hc
        exact (parenthesized?_cons_congr (by decide) hc).trans hpassed.symm
    | opened marks =>
      by_cases hc : c = ')'
      · subst hc
        rw [run_opened_of_eq _ _ _ _ _ rfl, hnext]
        have hempty : parenthesized? ('-' :: '(' :: ')' :: rest) = parenthesized? (')' :: rest) := by
          rw [parenthesized?, if_neg (by simp), parenthesized?_opening]
        exact (parenthesized?_cons_congr (by decide) (by decide)).trans hempty.symm
      -- the search is over, so nothing is asked of the rest
      · rw [run_opened_of_ne _ _ _ _ _ hc]
        have hfound : parenthesized? ('-' :: '(' :: c :: rest)
            = some ((c :: rest).takeWhile (· ≠ ')')) := by
          rw [parenthesized?, if_pos ⟨by decide, hc⟩]
        exact (part?_inside front (c :: rest) marks).trans hfound.symm

/-- What is captured is what the scan finds. -/
theorem captured?_eq (text : List Char) : captured? text = parenthesized? text := by
  rw [captured?_eq_bind]
  exact run_phase .idle none [] text

end Metric

end RenderCheck
