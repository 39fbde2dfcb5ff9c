import Mathlib.Data.Bool.Basic
import Mathlib.Logic.Function.Basic
import RenderCheck.CommandLine.Run
import RenderCheck.Proofs.CommandLine.Spelling
import RenderCheck.Proofs.Config

/-! # Parsing command lines

    What is wished for are two directories, a value for some of the options,
    perhaps the comparison of texts, and a verbosity. Every line whose parts say
    just that is read as these arguments, whatever the order and the spelling of
    its parts.

    * **Wishes**, what they say in arguments and in drafts (`Wish.draft`).
    * **One part**: taking in its item makes the draft that of the wish with the
      part (`take_give`, `take_directory`).
    * **All parts**: `takeAll_of_says`, by induction on the items.
    * **Lines**: `parse_words`. -/

namespace RenderCheck.CommandLine

/-! ## Wishes -/

/-- What is wished for. -/
structure Wish where
  /-- The directories, in the order of their places. -/
  directories : List String := []
  /-- The values of those options that have one. -/
  value : ValueOption → Option String := fun _ => none
  textDiff : Bool := false
  verbosity : Nat := 0

/-- The value of an option, if a part gives it one. -/
def Part.given? (option : ValueOption) : Part → Option String
  | give other value => if other = option then some value else none
  | _ => none

namespace Wish

/-- A text is a value of an option: of its type, and not empty. -/
def IsValue : ValueOption → String → Prop
  | .threshold, text => ∃ number, Binary64.read? text.toList = some number
  | .backend, text => ∃ kind, backendWords.lookup text = some kind
  | .logFormat, text => ∃ format, formatWords.lookup text = some format
  | _, text => text ≠ ""

/-- The threshold, if one is given. -/
def threshold? (w : Wish) : Option Binary64 :=
  (w.value .threshold).bind fun text => Binary64.read? text.toList

/-- The backend, if one is given. -/
def backend? (w : Wish) : Option BackendKind :=
  (w.value .backend).bind fun text => backendWords.lookup text

/-- The log format, if one is given. -/
def logFormat? (w : Wish) : Option Trace.Format :=
  (w.value .logFormat).bind fun text => formatWords.lookup text

/-- The arguments that say what is wished for: what is given as it is given, and
    what is not by default. -/
def arguments (w : Wish) (reference render : String) : Arguments where
  refDir := ⟨reference⟩
  renderDir := ⟨render⟩
  diffDir := (w.value .diffDir).map Path.mk
  threshold := w.threshold?.getD defaultThreshold
  pattern := (w.value .pattern).getD "*.png"
  backend := w.backend?.getD .imageMagick
  programs :=
    { compare := (w.value .compareBin).getD "compare"
      montage := (w.value .montageBin).getD "montage"
      diff := (w.value .diffBin).getD "diff" }
  textDiff := w.textDiff
  verbosity := min w.verbosity 255
  logFormat := w.logFormat?.getD .console

/-- What is taken in when so much is said. -/
def draft (w : Wish) : Draft where
  refDir := w.directories[0]?.map Path.mk
  renderDir := w.directories[1]?.map Path.mk
  diffDir := (w.value .diffDir).map Path.mk
  threshold := w.threshold?
  pattern := w.value .pattern
  backend := w.backend?
  compareBin := w.value .compareBin
  montageBin := w.value .montageBin
  diffBin := w.value .diffBin
  logFormat := w.logFormat?
  textDiff := w.textDiff
  verbosity := min w.verbosity Draft.verbosityLimit

/-- The wish with a value for an option. -/
def give (w : Wish) (option : ValueOption) (value : String) : Wish :=
  { w with value := Function.update w.value option (some value) }

@[simp] theorem value_give_self (w : Wish) (option : ValueOption) (value : String) :
    (w.give option value).value option = some value :=
  Function.update_self ..

@[simp] theorem value_give_of_ne (w : Wish) {option other : ValueOption} (value : String)
    (h : other ≠ option) : (w.give option value).value other = w.value other :=
  Function.update_of_ne h ..

/-- The wish with one more directory. -/
def add (w : Wish) (text : String) : Wish :=
  { w with directories := w.directories ++ [text] }

/-- The places that are left. -/
def places (w : Wish) : List Place :=
  [.reference, .render].drop w.directories.length

/-- The draft of a wish with both directories says what is wished for. -/
theorem finish_draft {w : Wish} {reference render : String}
    (h : w.directories = [reference, render]) :
    w.draft.finish = .ok (w.arguments reference render) := by
  unfold draft Draft.finish arguments
  rw [h]
  rfl

end Wish

/-! ## One part -/

section Taking

variable {w : Wish} {option : ValueOption} {value text : String}

/-- An option that has no value yet takes one of its own. -/
theorem give_draft (hnone : w.value option = none) (hvalue : Wish.IsValue option value) :
    w.draft.give option (some value) = .ok (w.give option value).draft := by
  have hfree : w.draft.has option = false := by
    cases option <;>
      simp [Draft.has, Wish.draft, Wish.threshold?, Wish.backend?, Wish.logFormat?, hnone]
  unfold Draft.give
  dsimp only
  rw [hfree, if_neg Bool.false_ne_true]
  -- four values are read first, the others are kept as they are
  cases option with
  | diffDir =>
    have hpath : readPath ValueOption.diffDir.usage value = .ok ⟨value⟩ := if_neg hvalue
    unfold Draft.put
    dsimp only
    rw [hpath]
    rfl
  | threshold =>
    obtain ⟨number, hnumber⟩ := hvalue
    have hread : readNumber .threshold value = .ok number := by
      unfold readNumber
      rw [hnumber]
    have hgiven : (w.give .threshold value).threshold? = some number := hnumber
    unfold Draft.put
    dsimp only
    rw [hread]
    show Except.ok { w.draft with threshold := some number } = Except.ok _
    rw [← hgiven]
    rfl
  | backend =>
    obtain ⟨kind, hkind⟩ := hvalue
    have hread : readWord backendWords .backend value = .ok kind := by
      unfold readWord
      rw [hkind]
    have hgiven : (w.give .backend value).backend? = some kind := hkind
    unfold Draft.put
    dsimp only
    rw [hread]
    show Except.ok { w.draft with backend := some kind } = Except.ok _
    rw [← hgiven]
    rfl
  | logFormat =>
    obtain ⟨format, hformat⟩ := hvalue
    have hread : readWord formatWords .logFormat value = .ok format := by
      unfold readWord
      rw [hformat]
    have hgiven : (w.give .logFormat value).logFormat? = some format := hformat
    unfold Draft.put
    dsimp only
    rw [hread]
    show Except.ok { w.draft with logFormat := some format } = Except.ok _
    rw [← hgiven]
    rfl
  | pattern => rfl
  | compareBin => rfl
  | montageBin => rfl
  | diffBin => rfl

/-- Texts are to be compared from now on. -/
theorem turnOn_textDiff (hnone : w.textDiff = false) :
    w.draft.turnOn .textDiff = .ok { w with textDiff := true }.draft := by
  have hfree : w.draft.textDiff = false := hnone
  unfold Draft.turnOn
  rw [hfree]
  rfl

/-- The verbosity grows up to its limit. -/
theorem turnOn_verbose : w.draft.turnOn .verbose
    = .ok { w with verbosity := w.verbosity + 1 }.draft := by
  -- once the limit is reached, one more makes no difference
  have hlimit : min (min w.verbosity Draft.verbosityLimit + 1) Draft.verbosityLimit
      = min (w.verbosity + 1) Draft.verbosityLimit := by omega
  unfold Draft.turnOn Wish.draft
  simp only [hlimit]
  rfl

/-- A directory takes the next place. -/
theorem putDirectory_draft {place : Place} {left : List Place} (hplaces : w.places = place :: left)
    (htext : text ≠ "") :
    w.draft.putDirectory place text = .ok (w.add text).draft ∧ (w.add text).places = left := by
  have hpath (usage : String) : readPath usage text = .ok ⟨text⟩ := if_neg htext
  -- the place is left, so at most one directory has been taken in
  obtain ⟨directories, value, textDiff, verbosity⟩ := w
  unfold Draft.putDirectory
  rw [hpath]
  cases directories with
  | nil =>
    cases hplaces
    exact ⟨rfl, rfl⟩
  | cons first more =>
    cases more with
    | nil =>
      cases hplaces
      exact ⟨rfl, rfl⟩
    | cons second more => simp [Wish.places] at hplaces

end Taking

/-! ## All parts -/

/-- Parts say what is wished for: the directories in order, each value once,
    that texts are to be compared once if they are, and each step of the
    verbosity. -/
structure Says (parts : List Part) (wish : Wish) : Prop where
  directories : parts.filterMap Part.directory? = wish.directories
  values : ∀ option, parts.filterMap (Part.given? option) = (wish.value option).toList
  textDiff : parts.count .textDiff = wish.textDiff.toNat
  verbosity : parts.count .verbose = wish.verbosity

/-- Parts say what is left of what is wished for when some of it has been said. -/
structure SaysRest (w : Wish) (parts : List Part) (wish : Wish) : Prop where
  directories : w.directories ++ parts.filterMap Part.directory? = wish.directories
  values : ∀ option, (w.value option).toList ++ parts.filterMap (Part.given? option)
    = (wish.value option).toList
  textDiff : w.textDiff.toNat + parts.count .textDiff = wish.textDiff.toNat
  verbosity : w.verbosity + parts.count .verbose = wish.verbosity

theorem Says.saysRest {parts : List Part} {wish : Wish} (h : Says parts wish) :
    SaysRest {} parts wish where
  directories := h.directories
  values := h.values
  textDiff := (Nat.zero_add _).trans h.textDiff
  verbosity := (Nat.zero_add _).trans h.verbosity

namespace SaysRest

variable {w wish : Wish} {parts : List Part}

/-- When nothing is left to be said, all has been said. -/
theorem eq_of_nil (h : SaysRest w [] wish) : w = wish := by
  have hdirectories : w.directories = wish.directories := by
    have hleft := h.directories
    rwa [List.filterMap_nil, List.append_nil] at hleft
  have hvalue : w.value = wish.value := by
    funext option
    have hleft := h.values option
    rw [List.filterMap_nil, List.append_nil] at hleft
    have hheads := congrArg List.head? hleft
    rwa [Option.head?_toList, Option.head?_toList] at hheads
  have htextDiff : w.textDiff = wish.textDiff := by
    have hcount : w.textDiff.toNat = wish.textDiff.toNat := h.textDiff
    rw [← Bool.ofNat_toNat w.textDiff, hcount, Bool.ofNat_toNat]
  have hverbosity : w.verbosity = wish.verbosity := h.verbosity
  obtain ⟨directories, value, textDiff, verbosity⟩ := w
  obtain rfl := hdirectories
  obtain rfl := hvalue
  obtain rfl := htextDiff
  obtain rfl := hverbosity
  rfl

/-- A value that is given was not given before, and is the one wished for. -/
theorem give {option : ValueOption} {value : String}
    (h : SaysRest w (.give option value :: parts) wish) :
    w.value option = none ∧ wish.value option = some value ∧
      SaysRest (w.give option value) parts wish := by
  have hgiven (other : ValueOption) :
      (Part.give option value :: parts).filterMap (Part.given? other)
        = (if option = other then [value] else []) ++ parts.filterMap (Part.given? other) := by
    rw [List.filterMap_cons, Part.given?]
    by_cases hsame : option = other
    · rw [if_pos hsame, if_pos hsame]
      rfl
    · rw [if_neg hsame, if_neg hsame]
      rfl
  have hown := h.values option
  rw [hgiven, if_pos rfl] at hown
  -- only one value is wished for, so it can be no other than this one
  have hone : (wish.value option).toList.length ≤ 1 := by
    cases wish.value option <;> simp
  rw [← hown, List.length_append, List.length_append, List.length_singleton] at hone
  have hbefore : (w.value option).toList = [] := List.eq_nil_of_length_eq_zero (by omega)
  have hlater : parts.filterMap (Part.given? option) = [] :=
    List.eq_nil_of_length_eq_zero (by omega)
  have hnone : w.value option = none := Option.toList_eq_nil_iff.1 hbefore
  have hwished : wish.value option = some value := by
    rw [hbefore, hlater] at hown
    exact Option.toList_eq_singleton_iff.1 hown.symm
  refine ⟨hnone, hwished, h.directories, fun other => ?_, h.textDiff, h.verbosity⟩
  have hother := h.values other
  rw [hgiven] at hother
  by_cases hsame : option = other
  · subst hsame
    rw [if_pos rfl, hnone] at hother
    simpa using hother
  · rw [if_neg hsame, List.nil_append] at hother
    simpa [Ne.symm hsame] using hother

theorem textDiff_cons (h : SaysRest w (.textDiff :: parts) wish) :
    w.textDiff = false ∧ SaysRest { w with textDiff := true } parts wish := by
  have hcount := h.textDiff
  rw [List.count_cons_self] at hcount
  have hwished : wish.textDiff.toNat ≤ 1 := Bool.toNat_le _
  have hnone : w.textDiff = false := by
    cases htextDiff : w.textDiff with
    | false => rfl
    | true =>
      rw [htextDiff, Bool.toNat_true] at hcount
      omega
  rw [hnone, Bool.toNat_false] at hcount
  refine ⟨hnone, h.directories, h.values, ?_, ?_⟩
  · rw [Bool.toNat_true]
    omega
  · exact h.verbosity

theorem verbose_cons (h : SaysRest w (.verbose :: parts) wish) :
    SaysRest { w with verbosity := w.verbosity + 1 } parts wish := by
  have hcount := h.verbosity
  rw [List.count_cons_self] at hcount
  refine ⟨h.directories, h.values, h.textDiff, ?_⟩
  show w.verbosity + 1 + _ = _
  omega

theorem directory_cons {text : String} (h : SaysRest w (.directory text :: parts) wish) :
    text ∈ wish.directories ∧ SaysRest (w.add text) parts wish := by
  have hdirectories := h.directories
  rw [List.filterMap_cons, Part.directory?] at hdirectories
  dsimp only at hdirectories
  constructor
  · rw [← hdirectories]
    exact List.mem_append_right _ List.mem_cons_self
  · refine ⟨?_, h.values, h.textDiff, h.verbosity⟩
    unfold Wish.add
    rw [List.append_assoc]
    exact hdirectories

end SaysRest

/-- Items that mean something begin with none that is refused. -/
theorem Means.not_refused {places : List Place} {items : List Item} {parts : List Part}
    (h : Means places items parts) (error : UsageError) (rest : List Item) :
    items ≠ .refused error :: rest := by
  cases h <;> rintro ⟨⟩

/-- Items of which none is refused are taken in one after the other. -/
theorem takeAll_cons {d d' : Draft} {item : Item} {items : List Item}
    (hrefused : ∀ error rest, items ≠ .refused error :: rest) (htake : d.take item = .ok d') :
    d.takeAll (item :: items) = d'.takeAll items := by
  rw [Draft.takeAll.eq_def]
  dsimp only
  split
  · next error rest _ => exact absurd rfl (hrefused error rest)
  · rw [htake]

/-- Taking in the items of parts that say the rest of what is wished for gives
    the draft of the whole. -/
theorem takeAll_of_saysRest {w wish : Wish}
    (hvalues : ∀ option value, wish.value option = some value → Wish.IsValue option value)
    (hdirectories : ∀ text ∈ wish.directories, text ≠ "") {items : List Item} {parts : List Part}
    {places : List Place} (hmeans : Means places items parts) (hplaces : w.places = places)
    (h : SaysRest w parts wish) : w.draft.takeAll items = .ok wish.draft := by
  -- each item makes the wish so far one part larger, and what is left to say smaller
  induction hmeans generalizing w with
  | nil =>
    rw [h.eq_of_nil]
    rfl
  | attached option value hrest ih =>
    obtain ⟨hnone, hwished, hsaid⟩ := h.give
    have hgive := give_draft hnone (hvalues option value hwished)
    have htake : w.draft.take (.attached option value) = .ok (w.give option value).draft := by
      rw [Draft.take, hgive]
      rfl
    rw [takeAll_cons hrest.not_refused htake]
    exact ih hplaces hsaid
  | detached option value hrest ih =>
    obtain ⟨hnone, hwished, hsaid⟩ := h.give
    have hgive := give_draft hnone (hvalues option value hwished)
    have htake : w.draft.take (.detached option (some value)) = .ok (w.give option value).draft := by
      rw [Draft.take, hgive]
      rfl
    rw [takeAll_cons hrest.not_refused htake]
    exact ih hplaces hsaid
  | textDiff hrest ih =>
    obtain ⟨hnone, hsaid⟩ := h.textDiff_cons
    have htake : w.draft.take (.switch .textDiff) = .ok { w with textDiff := true }.draft :=
      turnOn_textDiff hnone
    rw [takeAll_cons hrest.not_refused htake]
    exact ih hplaces hsaid
  | verbose hrest ih =>
    have htake : w.draft.take (.switch .verbose)
        = .ok { w with verbosity := w.verbosity + 1 }.draft := turnOn_verbose
    rw [takeAll_cons hrest.not_refused htake]
    exact ih hplaces h.verbose_cons
  | directory place text hrest ih =>
    obtain ⟨hmem, hsaid⟩ := h.directory_cons
    obtain ⟨hput, hleft⟩ := putDirectory_draft hplaces (hdirectories text hmem)
    have htake : w.draft.take (.directory place text) = .ok (w.add text).draft := by
      rw [Draft.take, hput]
      rfl
    rw [takeAll_cons hrest.not_refused htake]
    exact ih hleft hsaid

/-! ## Directories of arguments -/

/-- The directory at a place. -/
def Draft.directory (d : Draft) : Place → Option Path
  | .reference => d.refDir
  | .render => d.renderDir

/-- What goes on to a result has a result to go on from. -/
theorem exists_of_bind_eq_ok {ε α β : Type} {result : Except ε α} {next : α → Except ε β} {b : β}
    (h : (result >>= next) = .ok b) : ∃ a, result = .ok a ∧ next a = .ok b := by
  cases result with
  | error error => cases h
  | ok a => exact ⟨a, rfl, h⟩

theorem exists_of_mapError_eq_ok {ε ε' α : Type} {wrap : ε → ε'} {result : Except ε α} {a : α}
    (h : result.mapError wrap = .ok a) : result = .ok a := by
  cases result with
  | error error => cases h
  | ok a' =>
    cases h
    rfl

/-- The value of an option is no directory. -/
theorem directory_put {d d' : Draft} {option : ValueOption} {value : String}
    (h : d.put option value = .ok d') (place : Place) : d'.directory place = d.directory place := by
  have hread {α : Type} {result : Except UsageError α} {next : α → Draft}
      (hnext : ∀ a, (next a).directory place = d.directory place)
      (hresult : (result >>= fun a => pure (next a)) = .ok d') :
      d'.directory place = d.directory place := by
    obtain ⟨a, -, hlast⟩ := exists_of_bind_eq_ok hresult
    cases hlast
    exact hnext a
  unfold Draft.put at h
  cases option with
  | diffDir | threshold | backend | logFormat =>
    refine hread (fun a => ?_) h
    cases place <;> rfl
  | pattern | compareBin | montageBin | diffBin =>
    cases h
    cases place <;> rfl

theorem directory_give {d d' : Draft} {option : ValueOption} {value : Option String}
    (h : d.give option value = .ok d') (place : Place) : d'.directory place = d.directory place := by
  unfold Draft.give at h
  split at h
  · cases h
  split at h
  · cases h
  · exact directory_put h place

/-- Taking in an item sets a directory only if the item is that directory. -/
theorem directory_take {d d' : Draft} {item : Item} (h : d.take item = .ok d') (place : Place) :
    d'.directory place = d.directory place ∨
      ∃ text, item = .directory place text ∧ d'.directory place = some ⟨text⟩ := by
  cases item with
  | switch switch =>
    left
    cases switch with
    | textDiff =>
      change (if d.textDiff then Except.error _ else Except.ok { d with textDiff := true }) = _ at h
      split at h
      · cases h
      · cases h
        cases place <;> rfl
    | verbose =>
      cases h
      cases place <;> rfl
    | help => cases h
    | version => cases h
  | attached option value => exact .inl (directory_give (exists_of_mapError_eq_ok h) place)
  | detached option value => exact .inl (directory_give (exists_of_mapError_eq_ok h) place)
  | refused error => cases h
  | directory own text =>
    obtain ⟨path, hpath, hlast⟩ := exists_of_bind_eq_ok (exists_of_mapError_eq_ok h)
    have htext : path = ⟨text⟩ := by
      unfold readPath at hpath
      split at hpath
      · cases hpath
      · cases hpath
        rfl
    subst htext
    -- the item sets its own place and leaves the other
    cases own <;> cases hlast <;> cases place
    · exact .inr ⟨text, rfl, rfl⟩
    · exact .inl rfl
    · exact .inl rfl
    · exact .inr ⟨text, rfl, rfl⟩

/-- A directory that has been taken in was there before or is among the items. -/
theorem mem_of_takeAll {d d' : Draft} {items : List Item} (h : d.takeAll items = .ok d')
    {place : Place} {path : Path} (hpath : d'.directory place = some path) :
    d.directory place = some path ∨ .directory place path.text ∈ items := by
  induction items generalizing d with
  | nil =>
    rw [Draft.takeAll] at h
    cases h
    exact .inl hpath
  | cons item items ih =>
    rw [Draft.takeAll.eq_def] at h
    dsimp only at h
    split at h
    · cases h
    · split at h
      · cases h
      · next d'' htake =>
        rcases ih h with hbefore | hmem
        · rcases directory_take htake place with hsame | ⟨text, rfl, hset⟩
          · exact .inl (hsame ▸ hbefore)
          · rw [hset] at hbefore
            cases hbefore
            exact .inr List.mem_cons_self
        · exact .inr (List.mem_cons_of_mem _ hmem)

/-- Arguments have the directories that are among the items. -/
theorem mem_of_parse {arguments : List String} {a : Arguments}
    (h : Arguments.parse arguments = .ok a) :
    .directory .reference a.refDir.text ∈ Item.ofArguments arguments ∧
      .directory .render a.renderDir.text ∈ Item.ofArguments arguments := by
  obtain ⟨d, htake, hfinish⟩ := exists_of_bind_eq_ok h
  have hdirectories : d.directory .reference = some a.refDir ∧
      d.directory .render = some a.renderDir := by
    unfold Draft.finish at hfinish
    split at hfinish
    · next hreference hrender =>
      cases hfinish
      exact ⟨hreference, hrender⟩
    · cases hfinish
  constructor
  · exact (mem_of_takeAll htake hdirectories.1).resolve_left (fun hnone => nomatch hnone)
  · exact (mem_of_takeAll htake hdirectories.2).resolve_left (fun hnone => nomatch hnone)

/-! ## Lines -/

/-- The configuration of arguments is made of what they say, and is built if it
    can be used. -/
theorem config_eq_ok_iff (a : Arguments) (config : Config) :
    a.config = .ok config ↔ config =
      { referenceDir := a.refDir, renderDir := a.renderDir, diffDir := a.diffDir
        threshold := a.threshold, imagePattern := a.pattern, backend := a.backend
        programs := a.programs, textDiff := a.textDiff } ∧ config.Usable := by
  have hbuild : a.config = .ok config ↔ Config.build a.settings = .ok config := by
    unfold Arguments.config
    cases Config.build a.settings <;> simp
  rw [hbuild, Config.build_eq_ok_iff]
  rfl

/-- Every line that is spelled well and says what is wished for is read as that,
    in whatever order and however it says it. The configuration of these
    arguments has each value in its place, and is built if it can be used. And
    whatever the arguments, a directory that looks like options stands after
    `--`. -/
theorem parse_words {line : Line} (hspelled : ∀ phrase ∈ line.phrases, phrase.WellSpelled)
    {wish : Wish} (hsaid : Says line.parts wish)
    (hvalues : ∀ option value, wish.value option = some value → Wish.IsValue option value)
    {reference render : String} (hdirectories : wish.directories = [reference, render])
    (hreference : reference ≠ "") (hrender : render ≠ "") :
    Arguments.parse line.words = .ok (wish.arguments reference render) ∧
    (∀ config, (wish.arguments reference render).config = .ok config ↔ config =
      { referenceDir := ⟨reference⟩, renderDir := ⟨render⟩
        diffDir := (wish.value .diffDir).map Path.mk
        threshold := wish.threshold?.getD defaultThreshold
        imagePattern := (wish.value .pattern).getD "*.png"
        backend := wish.backend?.getD .imageMagick
        programs :=
          { compare := (wish.value .compareBin).getD "compare"
            montage := (wish.value .montageBin).getD "montage"
            diff := (wish.value .diffBin).getD "diff" }
        textDiff := wish.textDiff } ∧ config.Usable) ∧
    ∀ arguments a, Arguments.parse arguments = .ok a →
      ∀ text ∈ [a.refDir.text, a.renderDir.text], Item.namesOptions text = true →
        StandsAfter arguments text := by
  refine ⟨?_, fun config => config_eq_ok_iff _ config, ?_⟩
  -- two directories are no more than there are places
  · have hroom : (line.parts.filterMap Part.directory?).length ≤ 2 := by
      rw [hsaid.directories, hdirectories]
      exact Nat.le_refl 2
    have hmeans : Means [.reference, .render] (Item.ofArguments line.words) line.parts :=
      means_ofArgumentsAt hspelled hroom
    have hsome : ∀ text ∈ wish.directories, text ≠ "" := by
      rw [hdirectories]
      simp [hreference, hrender]
    have htake : Draft.takeAll {} (Item.ofArguments line.words) = .ok wish.draft :=
      takeAll_of_saysRest hvalues hsome hmeans rfl hsaid.saysRest
    unfold Arguments.parse
    rw [htake]
    exact Wish.finish_draft hdirectories
  · intro arguments a hparse text htext hoptions
    -- whatever was parsed, each directory came from an item that has its text
    obtain ⟨hreference, hrender⟩ := mem_of_parse hparse
    rw [List.mem_cons, List.mem_singleton] at htext
    rcases htext with rfl | rfl
    · exact standsAfter_of_mem_items hoptions hreference
    · exact standsAfter_of_mem_items hoptions hrender

/-! ## Two spellings -/

namespace Spelled

/-- Some options, and a directory that looks like one. -/
def wish : Wish where
  directories := ["ref", "-out"]
  value
    | .threshold => some "0.5"
    | .diffDir => some "diffs"
    | .backend => some "native"
    | _ => none
  textDiff := true
  verbosity := 2

/-- Long names first, and each value as an argument of its own. -/
def loose : Line where
  phrases := [.verbose, .apart .threshold "0.5", .apart .diffDir "diffs", .textDiff, .verbose,
    .apart .backend "native", .directory "ref"]
  trailing := some ["-out"]

/-- Letters and equals signs, in another order. -/
def dense : Line where
  phrases := [.directory "ref", .short 2 .backend 'b' "native" .direct,
    .short 0 .diffDir 'd' "diffs" .equals, .textDiff, .joined .threshold "0.5"]
  trailing := some ["-out"]

/-- Both are read as the same arguments. -/
theorem read_alike :
    loose.words = ["--verbose", "--threshold", "0.5", "--diff-dir", "diffs", "--text-diff",
      "--verbose", "--backend", "native", "ref", "--", "-out"] ∧
    dense.words = ["ref", "-vvbnative", "-d=diffs", "--text-diff", "--threshold=0.5", "--", "-out"] ∧
    (∀ phrase ∈ loose.phrases, phrase.WellSpelled) ∧
    (∀ phrase ∈ dense.phrases, phrase.WellSpelled) ∧
    Says loose.parts wish ∧ Says dense.parts wish ∧
    (∀ option value, wish.value option = some value → Wish.IsValue option value) ∧
    wish.directories = ["ref", "-out"] ∧ "ref" ≠ "" ∧ "-out" ≠ "" ∧
    Arguments.parse loose.words = .ok (wish.arguments "ref" "-out") ∧
    Arguments.parse dense.words = .ok (wish.arguments "ref" "-out") ∧
    wish.arguments "ref" "-out" =
      { refDir := ⟨"ref"⟩, renderDir := ⟨"-out"⟩, diffDir := some ⟨"diffs"⟩
        threshold := .ofMagnitude false (Binary64.nearestDecimal 5 (-1))
        backend := .native, textDiff := true, verbosity := 2 } := by
  have hloose : ∀ phrase ∈ loose.phrases, phrase.WellSpelled := by decide
  have hdense : ∀ phrase ∈ dense.phrases, phrase.WellSpelled := by decide
  -- the two lines give each option the same value
  have hvalue {parts : List Part} (h : parts = loose.parts ∨ parts = dense.parts)
      (option : ValueOption) :
      parts.filterMap (Part.given? option) = (wish.value option).toList := by
    rcases h with rfl | rfl <;> cases option <;> rfl
  have hsaysLoose : Says loose.parts wish := ⟨rfl, hvalue (.inl rfl), by decide, by decide⟩
  have hsaysDense : Says dense.parts wish := ⟨rfl, hvalue (.inr rfl), by decide, by decide⟩
  have hvalues : ∀ option value, wish.value option = some value → Wish.IsValue option value := by
    have hnumber : (Binary64.read? "0.5".toList).isSome = true := by decide +kernel
    intro option value hgiven
    cases option <;> cases hgiven
    · show "diffs" ≠ ""
      decide
    · exact Option.isSome_iff_exists.1 hnumber
    · exact ⟨.native, rfl⟩
  have hreference : "ref" ≠ "" := by decide
  have hrender : "-out" ≠ "" := by decide
  exact ⟨by decide, by decide, hloose, hdense, hsaysLoose, hsaysDense, hvalues, rfl, hreference,
    hrender, (parse_words hloose hsaysLoose hvalues rfl hreference hrender).1,
    (parse_words hdense hsaysDense hvalues rfl hreference hrender).1, by decide +kernel⟩

end Spelled

end RenderCheck.CommandLine
