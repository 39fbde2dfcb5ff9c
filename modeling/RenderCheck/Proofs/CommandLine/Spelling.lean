import RenderCheck.CommandLine.Item

/-! # Spellings of command lines

    What is said on a command line are its *parts*: options with their values,
    options that stand for themselves, and directories. A part can be spelled in
    more than one way, and parts may stand in any order; sorting the arguments
    into items finds the parts in the order in which they were spelled.

    * **Parts** and the phrases that spell them: `Phrase.words`, `Phrase.parts`.
    * **Lines**: phrases, and directories after `--`.
    * **Sorting**: `Means` says which items are those of some parts, and
      `means_ofArguments` that the items of a line are those of its parts.
    * **Texts that look like options** are directories only after `--`
      (`standsAfter_of_mem_items`). -/

namespace RenderCheck.CommandLine

/-! ## Parts and phrases -/

/-- One thing said on a command line, however it is spelled. -/
inductive Part where
  /-- An option has a value. -/
  | give (option : ValueOption) (value : String)
  /-- Texts are to be compared. -/
  | textDiff
  /-- More is to be logged. -/
  | verbose
  /-- A directory; the first one is that of references. -/
  | directory (text : String)
  deriving DecidableEq

/-- How the value of an option stands behind its letter. -/
inductive Joint where
  /-- As the next argument: `-x value`. -/
  | apart
  /-- After an equals sign: `-x=value`. -/
  | equals
  /-- At once: `-xvalue`. -/
  | direct
  deriving DecidableEq

/-- A piece of a command line. -/
inductive Phrase where
  /-- `--name value`. -/
  | apart (option : ValueOption) (value : String)
  /-- `--name=value`. -/
  | joined (option : ValueOption) (value : String)
  /-- The letter of an option with its value, after the letters of some
      `--verbose`: `-x value` as well as `-vvxvalue`. -/
  | short (verbosity : Nat) (option : ValueOption) (letter : Char) (value : String) (joint : Joint)
  /-- `--text-diff`. -/
  | textDiff
  /-- `--verbose`. -/
  | verbose
  /-- `-v`, `-vv` and so on: one more than the number. -/
  | verboseLetters (more : Nat)
  /-- A directory before `--`. -/
  | directory (text : String)
  deriving DecidableEq

namespace Phrase

/-- The argument of letters after a dash. -/
def letters (text : List Char) : String :=
  String.ofList ('-' :: text)

/-- The letters of so many `--verbose`. -/
def verboseText (n : Nat) : List Char :=
  List.replicate n 'v'

/-- The arguments that the phrase is made of. -/
def words : Phrase → List String
  | apart option value => ["--" ++ (Key.value option).long, value]
  | joined option value => ["--" ++ (Key.value option).long ++ "=" ++ value]
  | short n _ letter value .apart => [letters (verboseText n ++ [letter]), value]
  | short n _ letter value .equals => [letters (verboseText n ++ letter :: '=' :: value.toList)]
  | short n _ letter value .direct => [letters (verboseText n ++ letter :: value.toList)]
  | textDiff => ["--text-diff"]
  | verbose => ["--verbose"]
  | verboseLetters more => [letters (verboseText (more + 1))]
  | directory text => [text]

/-- What the phrase says. -/
def parts : Phrase → List Part
  | apart option value => [.give option value]
  | joined option value => [.give option value]
  | short n option _ value _ => List.replicate n .verbose ++ [.give option value]
  | textDiff => [.textDiff]
  | verbose => [.verbose]
  | verboseLetters more => List.replicate (more + 1) .verbose
  | directory text => [.directory text]

/-- The phrase spells what it says: no value that is an argument of its own, and
    no directory before `--`, looks like options, a letter is that of its
    option, and what stands behind a letter at once is not empty and does not
    begin with an equals sign. -/
def WellSpelled : Phrase → Prop
  | apart _ value => Item.namesOptions value = false
  | short _ option letter value joint =>
    (Key.value option).letter? = some letter ∧
      match joint with
      | .apart => Item.namesOptions value = false
      | .equals => True
      | .direct => value.toList ≠ [] ∧ value.toList.head? ≠ some '='
  | directory text => Item.namesOptions text = false
  | _ => True

instance : (phrase : Phrase) → Decidable phrase.WellSpelled
  | apart _ value => inferInstanceAs (Decidable (Item.namesOptions value = false))
  | short _ option letter value .apart => inferInstanceAs (Decidable
      ((Key.value option).letter? = some letter ∧ Item.namesOptions value = false))
  | short _ option letter _ .equals => inferInstanceAs (Decidable
      ((Key.value option).letter? = some letter ∧ True))
  | short _ option letter value .direct => inferInstanceAs (Decidable
      ((Key.value option).letter? = some letter ∧
        value.toList ≠ [] ∧ value.toList.head? ≠ some '='))
  | directory text => inferInstanceAs (Decidable (Item.namesOptions text = false))
  | joined _ _ => .isTrue trivial
  | textDiff => .isTrue trivial
  | verbose => .isTrue trivial
  | verboseLetters _ => .isTrue trivial

end Phrase

/-- A command line: phrases, and perhaps `--` with directories after it. -/
structure Line where
  phrases : List Phrase
  trailing : Option (List String) := none
  deriving DecidableEq

namespace Line

/-- The arguments of the line. -/
def words (line : Line) : List String :=
  line.phrases.flatMap Phrase.words ++
    match line.trailing with
    | none => []
    | some texts => "--" :: texts

/-- What the line says. -/
def parts (line : Line) : List Part :=
  line.phrases.flatMap Phrase.parts ++ (line.trailing.getD []).map .directory

@[simp] theorem words_cons (phrase : Phrase) (phrases : List Phrase)
    (trailing : Option (List String)) :
    (mk (phrase :: phrases) trailing).words = phrase.words ++ (mk phrases trailing).words := by
  unfold words
  rw [List.flatMap_cons, List.append_assoc]

@[simp] theorem parts_cons (phrase : Phrase) (phrases : List Phrase)
    (trailing : Option (List String)) :
    (mk (phrase :: phrases) trailing).parts = phrase.parts ++ (mk phrases trailing).parts := by
  unfold parts
  rw [List.flatMap_cons, List.append_assoc]

end Line

/-- The text of a directory. -/
def Part.directory? : Part → Option String
  | directory text => some text
  | _ => none

/-! ## Sorting -/

/-- Items are those of some parts, with the directories at the next places. -/
inductive Means : List Place → List Item → List Part → Prop where
  | nil (places : List Place) : Means places [] []
  | attached {places : List Place} {items : List Item} {parts : List Part} (option : ValueOption)
      (value : String) : Means places items parts →
      Means places (.attached option value :: items) (.give option value :: parts)
  | detached {places : List Place} {items : List Item} {parts : List Part} (option : ValueOption)
      (value : String) : Means places items parts →
      Means places (.detached option (some value) :: items) (.give option value :: parts)
  | textDiff {places : List Place} {items : List Item} {parts : List Part} :
      Means places items parts → Means places (.switch .textDiff :: items) (.textDiff :: parts)
  | verbose {places : List Place} {items : List Item} {parts : List Part} :
      Means places items parts → Means places (.switch .verbose :: items) (.verbose :: parts)
  | directory {places : List Place} {items : List Item} {parts : List Part} (place : Place)
      (text : String) : Means places items parts →
      Means (place :: places) (.directory place text :: items) (.directory text :: parts)

section Sorting

variable {places : List Place} {items : List Item} {parts : List Part}

/-- So many `--verbose` in front of what is there. -/
theorem Means.verboses (h : Means places items parts) (n : Nat) :
    Means places (List.replicate n (.switch .verbose) ++ items)
      (List.replicate n .verbose ++ parts) := by
  induction n with
  | zero => exact h
  | succ n ih => exact .verbose ih

/-- An argument that names options, all of them with what belongs to them. -/
theorem ofArgumentsAt_complete {argument : String} (hoptions : Item.namesOptions argument = true)
    (hdashes : argument ≠ "--") (hitems : Item.ofArgument argument = (items, none))
    (rest : List String) :
    Item.ofArgumentsAt places (argument :: rest) = items ++ Item.ofArgumentsAt places rest := by
  rw [Item.ofArgumentsAt.eq_def]
  simp only [if_neg hdashes, if_pos hoptions, hitems]

/-- An argument that names options, the last one with the next argument as its
    value. -/
theorem ofArgumentsAt_awaiting {argument : String} (hoptions : Item.namesOptions argument = true)
    (hdashes : argument ≠ "--") {option : ValueOption}
    (hitems : Item.ofArgument argument = (items, some option)) {value : String}
    (hvalue : Item.namesOptions value = false) (rest : List String) :
    Item.ofArgumentsAt places (argument :: value :: rest)
      = items ++ .detached option (some value) :: Item.ofArgumentsAt places rest := by
  rw [Item.ofArgumentsAt.eq_def]
  simp only [if_neg hdashes, if_pos hoptions, hitems, hvalue, Bool.false_eq_true, if_false]

/-- Letters after a dash name options, if there are any. -/
theorem letters_names {text : List Char} (h : text ≠ []) :
    Item.namesOptions (Phrase.letters text) = true := by
  unfold Item.namesOptions Phrase.letters
  rw [String.toList_ofList]
  cases text with
  | nil => exact absurd rfl h
  | cons c text => rfl

theorem letters_ne_dashes {text : List Char} (h : text.head? ≠ some '-') :
    Phrase.letters text ≠ "--" := by
  intro hdashes
  have htext := congrArg String.toList hdashes
  unfold Phrase.letters at htext
  rw [String.toList_ofList] at htext
  cases htext
  exact h rfl

/-- Letters after a dash are read one by one, if they are not a long name. -/
theorem ofArgument_letters {text : List Char} (h : text.head? ≠ some '-') :
    Item.ofArgument (Phrase.letters text) = Item.ofLetters text := by
  unfold Item.ofArgument Phrase.letters
  rw [String.toList_ofList]
  split
  · next heq =>
    cases heq
    exact absurd rfl h
  · next heq =>
    cases heq
    rfl
  · next heq => cases heq

/-- The letters of so many `--verbose` in front of others. -/
theorem ofLetters_verboseText (n : Nat) (rest : List Char) :
    Item.ofLetters (Phrase.verboseText n ++ rest) =
      (List.replicate n (.switch .verbose) ++ (Item.ofLetters rest).1, (Item.ofLetters rest).2) := by
  have hletter : Key.ofLetter? 'v' = some (.switch .verbose) := by decide
  induction n with
  | zero => rfl
  | succ n ih =>
    show Item.ofLetters ('v' :: (Phrase.verboseText n ++ rest)) = _
    rw [Item.ofLetters, hletter]
    dsimp only
    rw [ih]
    rfl

/-- An option is the one with its letter. -/
theorem ofLetter?_of_letter? {option : ValueOption} {letter : Char}
    (h : (Key.value option).letter? = some letter) :
    Key.ofLetter? letter = some (.value option) := by
  cases option <;> cases h <;> decide

/-- No value option has a dash for its letter. -/
theorem letter_ne_dash {option : ValueOption} {letter : Char}
    (h : (Key.value option).letter? = some letter) : letter ≠ '-' := by
  rintro rfl
  cases option <;> cases h

section Letter

variable {option : ValueOption} {letter : Char} (hletter : Key.ofLetter? letter = some (.value option))

include hletter

/-- Behind the last letter the value is yet to come. -/
theorem ofLetters_last : Item.ofLetters [letter] = ([], some option) := by
  rw [Item.ofLetters, hletter]

theorem ofLetters_equals (value : String) :
    Item.ofLetters (letter :: '=' :: value.toList) = ([.attached option value], none) := by
  rw [Item.ofLetters, hletter]
  show ([Item.attached option (String.ofList value.toList)], none) = _
  rw [String.ofList_toList]

theorem ofLetters_direct {value : String} (hsome : value.toList ≠ [])
    (hequals : value.toList.head? ≠ some '=') :
    Item.ofLetters (letter :: value.toList) = ([.attached option value], none) := by
  rw [Item.ofLetters, hletter]
  dsimp only
  split
  · next heq => exact absurd heq hsome
  · next heq =>
    rw [heq] at hequals
    exact absurd rfl hequals
  · rw [String.ofList_toList]

end Letter

theorem head?_verboseText_append {n : Nat} {letter : Char} {rest : List Char} (h : letter ≠ '-') :
    (Phrase.verboseText n ++ letter :: rest).head? ≠ some '-' := by
  cases n with
  | zero =>
    rintro ⟨⟩
    exact h rfl
  | succ n => exact fun heq => nomatch heq

/-- The long name of an option stands in the argument up to the equals sign. -/
theorem ofArgument_long (option : ValueOption) :
    Item.ofArgument ("--" ++ (Key.value option).long) = ([], some option) := by
  cases option <;> decide

/-- What stands behind the equals sign is the value. -/
theorem ofArgument_long_value (option : ValueOption) (value : String) :
    Item.ofArgument ("--" ++ (Key.value option).long ++ "=" ++ value)
      = ([.attached option value], none) := by
  -- no name has an equals sign, so the first one is that before the value
  have hplain : (Key.value option).long.toList.all (· ≠ '=') = true := by
    cases option <;> decide
  have hname := List.all_eq_true.1 hplain
  have hoption : Key.ofLong? (Key.value option).long = some (.value option) := by
    cases option <;> decide
  have htext : ("--" ++ (Key.value option).long ++ "=" ++ value).toList
      = '-' :: '-' :: ((Key.value option).long.toList ++ '=' :: value.toList) := by
    simp [String.toList_append]
  unfold Item.ofArgument
  rw [htext]
  split
  · next text heq =>
    cases heq
    rw [List.takeWhile_append_of_pos hname, List.dropWhile_append_of_pos hname]
    simp only [List.takeWhile_cons, List.dropWhile_cons, ne_eq, not_true_eq_false, decide_false,
      Bool.false_eq_true, if_false, List.append_nil, String.ofList_toList]
    unfold Item.ofLong
    rw [hoption]
  · next hlong heq =>
    cases heq
    exact (hlong _ rfl rfl).elim
  · next heq => cases heq

/-- A text that begins with two dashes and goes on names an option. -/
theorem dashes_name {argument : String} {c : Char} {rest : List Char}
    (h : argument.toList = '-' :: '-' :: c :: rest) :
    Item.namesOptions argument = true ∧ argument ≠ "--" := by
  constructor
  · unfold Item.namesOptions
    rw [h]
    rfl
  · rintro rfl
    cases h

/-- Directories after `--` take the places that are left. -/
theorem means_ofTexts {texts : List String} (hroom : texts.length ≤ places.length) :
    Means places (Item.ofTexts places texts) (texts.map .directory) := by
  induction texts generalizing places with
  | nil => exact .nil places
  | cons text texts ih =>
    cases places with
    | nil => cases hroom
    | cons place places => exact .directory place text (ih (Nat.le_of_succ_le_succ hroom))

/-- The letter of an option with its value, after those of some `--verbose`. -/
theorem means_short {n : Nat} {option : ValueOption} {letter : Char} {value : String} {joint : Joint}
    (hspelled : (Phrase.short n option letter value joint).WellSpelled) {rest : List String}
    (h : Means places (Item.ofArgumentsAt places rest) parts) :
    Means places
      (Item.ofArgumentsAt places ((Phrase.short n option letter value joint).words ++ rest))
      (List.replicate n .verbose ++ [.give option value] ++ parts) := by
  obtain ⟨hletter, hjoint⟩ := hspelled
  have hoption := ofLetter?_of_letter? hletter
  have hdash (behind : List Char) : (Phrase.verboseText n ++ letter :: behind).head? ≠ some '-' :=
    head?_verboseText_append (letter_ne_dash hletter)
  have hnames (behind : List Char) :=
    @letters_names (Phrase.verboseText n ++ letter :: behind) (by simp)
  have hitems (behind : List Char) :
      Item.ofArgument (Phrase.letters (Phrase.verboseText n ++ letter :: behind))
        = (List.replicate n (.switch .verbose) ++ (Item.ofLetters (letter :: behind)).1,
          (Item.ofLetters (letter :: behind)).2) :=
    (ofArgument_letters (hdash behind)).trans (ofLetters_verboseText n _)
  -- what stands behind the letter at once is the value
  have hattached {behind : List Char}
      (hbehind : Item.ofLetters (letter :: behind) = ([.attached option value], none)) :
      Means places
        (Item.ofArgumentsAt places
          (Phrase.letters (Phrase.verboseText n ++ letter :: behind) :: rest))
        (List.replicate n .verbose ++ [.give option value] ++ parts) := by
    have hcomplete := hitems behind
    rw [hbehind] at hcomplete
    rw [ofArgumentsAt_complete (hnames behind) (letters_ne_dashes (hdash behind)) hcomplete,
      List.append_assoc, List.append_assoc]
    exact (Means.attached option value h).verboses n
  cases joint with
  | apart =>
    have hawaiting := hitems []
    rw [ofLetters_last hoption, List.append_nil] at hawaiting
    show Means places (Item.ofArgumentsAt places (_ :: value :: rest)) _
    rw [ofArgumentsAt_awaiting (hnames []) (letters_ne_dashes (hdash [])) hawaiting hjoint,
      List.append_assoc]
    exact (Means.detached option value h).verboses n
  | equals => exact hattached (ofLetters_equals hoption value)
  | direct => exact hattached (ofLetters_direct hoption hjoint.1 hjoint.2)

/-- A phrase that is no directory means what it says, whatever follows it. -/
theorem Phrase.means {phrase : Phrase} (hspelled : phrase.WellSpelled)
    (hdirectory : ∀ text, phrase ≠ .directory text) {rest : List String}
    (h : Means places (Item.ofArgumentsAt places rest) parts) :
    Means places (Item.ofArgumentsAt places (phrase.words ++ rest)) (phrase.parts ++ parts) := by
  have hlong (option : ValueOption) : ∃ c rest, (Key.value option).long.toList = c :: rest := by
    cases option <;> exact ⟨_, _, rfl⟩
  cases phrase with
  | directory text => exact absurd rfl (hdirectory text)
  | textDiff =>
    have hitems : Item.ofArgument "--text-diff" = ([.switch .textDiff], none) := by decide
    show Means places (Item.ofArgumentsAt places ("--text-diff" :: rest)) _
    rw [ofArgumentsAt_complete (by decide) (by decide) hitems]
    exact .textDiff h
  | verbose =>
    have hitems : Item.ofArgument "--verbose" = ([.switch .verbose], none) := by decide
    show Means places (Item.ofArgumentsAt places ("--verbose" :: rest)) _
    rw [ofArgumentsAt_complete (by decide) (by decide) hitems]
    exact .verbose h
  -- several letters in one argument: each of them is one more step
  | verboseLetters more =>
    have hdash : (verboseText (more + 1)).head? ≠ some '-' := fun heq => nomatch heq
    have hsome : verboseText (more + 1) ≠ [] := fun heq => nomatch heq
    have hitems : Item.ofArgument (letters (verboseText (more + 1)))
        = (List.replicate (more + 1) (.switch .verbose), none) := by
      have hletters := ofLetters_verboseText (more + 1) []
      simp only [List.append_nil, Item.ofLetters] at hletters
      rw [ofArgument_letters hdash, hletters]
    show Means places (Item.ofArgumentsAt places (letters (verboseText (more + 1)) :: rest)) _
    rw [ofArgumentsAt_complete (letters_names hsome) (letters_ne_dashes hdash) hitems]
    exact h.verboses (more + 1)
  | apart option value =>
    obtain ⟨c, more, hname⟩ := hlong option
    obtain ⟨hoptions, hdashes⟩ := @dashes_name ("--" ++ (Key.value option).long) c more
      (by simp [String.toList_append, hname])
    show Means places (Item.ofArgumentsAt places (_ :: value :: rest)) _
    rw [ofArgumentsAt_awaiting hoptions hdashes (ofArgument_long option) hspelled]
    exact .detached option value h
  -- the value follows its name in the same argument
  | joined option value =>
    obtain ⟨c, more, hname⟩ := hlong option
    obtain ⟨hoptions, hdashes⟩ := @dashes_name ("--" ++ (Key.value option).long ++ "=" ++ value) c
      (more ++ '=' :: value.toList) (by simp [String.toList_append, hname])
    show Means places (Item.ofArgumentsAt places (_ :: rest)) _
    rw [ofArgumentsAt_complete hoptions hdashes (ofArgument_long_value option value)]
    exact .attached option value h
  | short n option letter value joint => exact means_short hspelled h

/-- A directory before `--` takes the next place. -/
theorem means_directory {text : String} (hspelled : Item.namesOptions text = false) {place : Place}
    {rest : List String} (h : Means places (Item.ofArgumentsAt places rest) parts) :
    Means (place :: places) (Item.ofArgumentsAt (place :: places) (text :: rest))
      (.directory text :: parts) := by
  have hdashes : text ≠ "--" := by
    rintro rfl
    cases hspelled
  rw [Item.ofArgumentsAt.eq_def]
  simp only [if_neg hdashes, hspelled, Bool.false_eq_true, if_false, Item.ofText]
  exact .directory place text h

/-- The items of a line are those of its parts, if there are places for all of
    its directories. -/
theorem means_ofArgumentsAt {line : Line} (hspelled : ∀ phrase ∈ line.phrases, phrase.WellSpelled)
    (hroom : (line.parts.filterMap Part.directory?).length ≤ places.length) :
    Means places (Item.ofArgumentsAt places line.words) line.parts := by
  obtain ⟨phrases, trailing⟩ := line
  induction phrases generalizing places with
  | nil =>
    cases trailing with
    | none => exact .nil places
    | some texts =>
      refine means_ofTexts ?_
      have hparts : ((Line.mk [] (some texts)).parts.filterMap Part.directory?) = texts := by
        show (texts.map Part.directory).filterMap Part.directory? = texts
        rw [List.filterMap_map]
        exact List.filterMap_some
      rwa [hparts] at hroom
  | cons phrase phrases ih =>
    rw [List.forall_mem_cons] at hspelled
    simp only [Line.parts_cons, List.filterMap_append, List.length_append] at hroom
    simp only [Line.words_cons, Line.parts_cons]
    -- a directory takes a place, and all else leaves the places as they are
    by_cases hdirectory : ∃ text, phrase = .directory text
    · obtain ⟨text, rfl⟩ := hdirectory
      have hone : (Phrase.directory text).parts.filterMap Part.directory? = [text] := rfl
      rw [hone, List.length_singleton] at hroom
      cases places with
      | nil => exact absurd hroom (by simp)
      | cons place places =>
        rw [List.length_cons] at hroom
        exact means_directory hspelled.1 (ih hspelled.2 (by omega))
    · refine Phrase.means hspelled.1 (fun text heq => hdirectory ⟨text, heq⟩) ?_
      exact ih hspelled.2 (by omega)

end Sorting

/-! ## Texts that look like options -/

/-- Options are no directories. -/
theorem directory_notMem_ofLetters (place : Place) (text : String) (letters : List Char) :
    .directory place text ∉ (Item.ofLetters letters).1 := by
  induction letters with
  | nil => simp [Item.ofLetters]
  | cons letter rest ih =>
    rw [Item.ofLetters]
    split
    · simp
    · simpa using ih
    · split <;> simp

theorem directory_notMem_ofArgument (place : Place) (text argument : String) :
    .directory place text ∉ (Item.ofArgument argument).1 := by
  unfold Item.ofArgument
  split
  · unfold Item.ofLong
    split <;> simp
  · exact directory_notMem_ofLetters place text _
  · simp

/-- Only texts become directories. -/
theorem mem_of_mem_ofTexts {place : Place} {text : String} {places : List Place}
    {texts : List String} (h : .directory place text ∈ Item.ofTexts places texts) : text ∈ texts := by
  induction texts generalizing places with
  | nil => cases h
  | cons first texts ih =>
    rw [Item.ofTexts] at h
    cases places with
    | nil =>
      rcases List.mem_cons.1 h with heq | hmem
      · cases heq
      · exact List.mem_cons_of_mem _ (ih hmem)
    | cons place places =>
      rcases List.mem_cons.1 h with heq | hmem
      · cases heq
        exact List.mem_cons_self
      · exact List.mem_cons_of_mem _ (ih hmem)

/-- The text stands somewhere after an argument `--`. -/
def StandsAfter (arguments : List String) (text : String) : Prop :=
  ∃ before after, arguments = before ++ "--" :: after ∧ text ∈ after

theorem StandsAfter.cons {arguments : List String} {text : String} (h : StandsAfter arguments text)
    (argument : String) : StandsAfter (argument :: arguments) text := by
  obtain ⟨before, after, rfl, hmem⟩ := h
  exact ⟨argument :: before, after, rfl, hmem⟩

/-- A directory whose text looks like options stands after `--`. -/
theorem standsAfter_of_mem_items {place : Place} {text : String}
    (hoptions : Item.namesOptions text = true) {places : List Place} {arguments : List String}
    (h : .directory place text ∈ Item.ofArgumentsAt places arguments) :
    StandsAfter arguments text := by
  have hitems {argument : String} {items : List Item} {awaiting : Option ValueOption}
      (hargument : Item.ofArgument argument = (items, awaiting)) : .directory place text ∉ items := by
    have hnone := directory_notMem_ofArgument place text argument
    rwa [hargument] at hnone
  induction places, arguments using Item.ofArgumentsAt.induct with
  | case1 places => cases h
  | case2 places texts =>
    rw [Item.ofArgumentsAt.eq_def] at h
    exact ⟨[], texts, rfl, mem_of_mem_ofTexts h⟩
  -- an argument that names options gives no directory, so there it is further on
  | case3 places argument hdashes hnames items rest hargument ih =>
    rw [ofArgumentsAt_complete hnames hdashes hargument] at h
    rcases List.mem_append.1 h with hmem | hmem
    · exact absurd hmem (hitems hargument)
    · exact (ih hmem).cons argument
  | case4 places argument hdashes hnames items option hargument =>
    rw [Item.ofArgumentsAt.eq_def] at h
    simp only [if_neg hdashes, if_pos hnames, hargument] at h
    rcases List.mem_append.1 h with hmem | hmem
    · exact absurd hmem (hitems hargument)
    · cases List.mem_singleton.1 hmem
  | case5 places argument hdashes hnames items option next after hargument hnext ih =>
    rw [Item.ofArgumentsAt.eq_def] at h
    simp only [if_neg hdashes, if_pos hnames, hargument, if_pos hnext] at h
    rcases List.mem_append.1 h with hmem | hmem
    · exact absurd hmem (hitems hargument)
    · rcases List.mem_cons.1 hmem with heq | hmem
      · cases heq
      · exact (ih hmem).cons argument
  | case6 places argument hdashes hnames items option next after hargument hnext ih =>
    rw [ofArgumentsAt_awaiting hnames hdashes hargument (Bool.eq_false_iff.2 hnext)] at h
    rcases List.mem_append.1 h with hmem | hmem
    · exact absurd hmem (hitems hargument)
    · rcases List.mem_cons.1 hmem with heq | hmem
      · cases heq
      · exact ((ih hmem).cons next).cons argument
  | case7 places argument rest hdashes hnames item left hitem ih =>
    rw [Item.ofArgumentsAt.eq_def] at h
    simp only [if_neg hdashes, if_neg hnames, hitem] at h
    rcases List.mem_cons.1 h with heq | hmem
    -- a text before `--` that becomes a directory does not look like options
    · subst heq
      cases places with
      | nil => cases hitem
      | cons place places =>
        cases hitem
        exact absurd hoptions hnames
    · exact (ih hmem).cons argument

end RenderCheck.CommandLine
