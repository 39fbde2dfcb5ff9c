import Mathlib.Data.List.TakeWhile
import RenderCheck.Proofs.Config
import RenderCheck.Proofs.Glob.Language
import RenderCheck.Proofs.Path.Components
import RenderCheck.Proofs.Run.Sequence

/-! # The grammar of patterns

    A pattern is read from left to right, and what is written decides how: each
    piece of text spells one token (`Reads`). Reading character by character
    finds these tokens, and finds a fault where there are none. So the names of
    images are those in the language of the tokens that the configured pattern
    spells.

    * **Sets**: how members are read (`Members`), and where a set ends.
    * **Tokens** and the text that spells them (`parse_eq_ok_iff`).
    * **Names of images** (`Comparator.isImage_iff_stands`). -/

namespace RenderCheck.Glob

/-! ## Sets -/

/-- The members of a set as ranges, read from the left: three characters with a
    dash in the middle are a range, any other character stands alone. -/
inductive Members : List Char → List Range → Prop where
  | nil : Members [] []
  | range (first last : Char) {members : List Char} {set : List Range} : Members members set →
      Members (first :: '-' :: last :: members) (⟨first, last⟩ :: set)
  | single (c : Char) {members : List Char} {set : List Range} :
      (∀ last more, members ≠ '-' :: last :: more) → Members members set →
      Members (c :: members) (⟨c, c⟩ :: set)

/-- Members are read in one way. -/
theorem members_iff {members : List Char} {set : List Range} :
    Members members set ↔ readRanges members = set := by
  constructor
  · intro h
    induction h with
    | nil => rfl
    | range first last _ ih => rw [readRanges, ih]
    | @single c members set hsingle _ ih =>
      rw [readRanges.eq_2 c members (fun last more heq => hsingle last more heq), ih]
  · rintro rfl
    induction members using readRanges.induct with
    | case1 first last members ih => exact .range first last ih
    | case2 c members hsingle ih =>
      rw [readRanges.eq_2 c members hsingle]
      exact .single c (fun last more heq => hsingle last more heq) ih
    | case3 => exact .nil

/-- The members of a set: at least one character, of which only the first may be
    a closing bracket. -/
def Enclosed (members : List Char) : Prop :=
  ∃ first more, members = first :: more ∧ ']' ∉ more

/-- A set ends at the first closing bracket behind its first member. -/
theorem splitSet?_eq_some_iff {text members after : List Char} :
    splitSet? text = some (members, after) ↔
      Enclosed members ∧ text = members ++ ']' :: after := by
  cases text with
  | nil => simp [splitSet?, Enclosed]
  | cons first rest =>
    simp only [splitSet?]
    constructor
    · intro h
      split at h
      · next bracket found hrest =>
        cases h
        -- what is dropped begins with the bracket
        have hbracket : bracket = ']' := by
          have hhead := List.head?_dropWhile_not (fun c => decide (c ≠ ']')) rest
          rw [hrest] at hhead
          simpa using hhead
        subst hbracket
        have hcut := List.takeWhile_append_dropWhile (p := fun c => decide (c ≠ ']')) (l := rest)
        rw [hrest] at hcut
        refine ⟨⟨first, _, rfl, ?_⟩, ?_⟩
        · intro hmem
          simpa using List.mem_takeWhile_imp hmem
        · rw [List.cons_append, hcut]
      · cases h
    · rintro ⟨⟨first', more, rfl, hmore⟩, htext⟩
      obtain ⟨rfl, rfl⟩ : first = first' ∧ rest = more ++ ']' :: after := by simpa using htext
      have hall : ∀ c ∈ more, decide (c ≠ ']') = true := by
        intro c hc
        rw [decide_eq_true_iff]
        rintro rfl
        exact hmore hc
      rw [List.dropWhile_append_of_pos hall, List.takeWhile_append_of_pos hall]
      simp

/-! ## Tokens -/

/-- The text spells the tokens; `atStart` says that a separator or the beginning
    of the pattern stands before it. -/
inductive Reads : (atStart : Bool) → List Char → List Token → Prop where
  | nil (atStart : Bool) : Reads atStart [] []
  /-- Any character that means nothing else stands for itself. -/
  | literal (atStart : Bool) {c : Char} {text : List Char} {tokens : List Token} :
      c ≠ '?' → c ≠ '*' → c ≠ '[' → Reads (c = '/') text tokens →
      Reads atStart (c :: text) (.literal c :: tokens)
  | anyChar (atStart : Bool) {text : List Char} {tokens : List Token} :
      Reads false text tokens → Reads atStart ('?' :: text) (.anyChar :: tokens)
  /-- A star has no other behind it. -/
  | anyText (atStart : Bool) {text : List Char} {tokens : List Token} :
      text.head? ≠ some '*' → Reads false text tokens →
      Reads atStart ('*' :: text) (.anyText :: tokens)
  /-- Two stars may be the last component. -/
  | lastDirectories : Reads true ['*', '*'] [.anyDirectories]
  /-- Two stars take the separator behind them along. -/
  | directories {text : List Char} {tokens : List Token} :
      Reads true text tokens → Reads true ('*' :: '*' :: '/' :: text) (.anyDirectories :: tokens)
  | oneOf (atStart : Bool) {members text : List Char} {set : List Range} {tokens : List Token} :
      Enclosed members → members.head? ≠ some '!' → Members members set →
      Reads false text tokens →
      Reads atStart ('[' :: (members ++ ']' :: text)) (.oneOf set :: tokens)
  | noneOf (atStart : Bool) {members text : List Char} {set : List Range} {tokens : List Token} :
      Enclosed members → Members members set → Reads false text tokens →
      Reads atStart ('[' :: '!' :: (members ++ ']' :: text)) (.noneOf set :: tokens)

/-- A set is read up to its closing bracket, and `!` before its members turns it
    around. -/
theorem readSet?_eq_some_iff {text after : List Char} {token : Token} :
    (∃ size, readSet? text = some (token, size, after)) ↔
      ∃ members set, Enclosed members ∧ Members members set ∧
        (members.head? ≠ some '!' ∧ text = members ++ ']' :: after ∧ token = .oneOf set ∨
          text = '!' :: (members ++ ']' :: after) ∧ token = .noneOf set) := by
  constructor
  · rintro ⟨size, h⟩
    unfold readSet? at h
    split at h
    -- the exclamation mark is no member, and the set is read behind it
    · next rest =>
      obtain ⟨⟨members, after'⟩, hsplit, heq⟩ := Option.map_eq_some_iff.1 h
      cases heq
      obtain ⟨henclosed, rfl⟩ := splitSet?_eq_some_iff.1 hsplit
      exact ⟨members, _, henclosed, members_iff.2 rfl, .inr ⟨rfl, rfl⟩⟩
    · next hplain =>
      obtain ⟨⟨members, after'⟩, hsplit, heq⟩ := Option.map_eq_some_iff.1 h
      cases heq
      obtain ⟨henclosed, rfl⟩ := splitSet?_eq_some_iff.1 hsplit
      refine ⟨members, _, henclosed, members_iff.2 rfl, .inl ⟨?_, rfl, rfl⟩⟩
      obtain ⟨first, more, rfl, -⟩ := henclosed
      rintro hfirst
      obtain rfl : first = '!' := by simpa using hfirst
      exact hplain _ rfl
  · rintro ⟨members, set, henclosed, hmembers, ⟨hplain, rfl, rfl⟩ | ⟨rfl, rfl⟩⟩
    · have hsplit := splitSet?_eq_some_iff.2 ⟨henclosed, Eq.refl (members ++ ']' :: after)⟩
      have hset := members_iff.1 hmembers
      refine ⟨members.length + 1, ?_⟩
      obtain ⟨first, more, rfl, -⟩ := henclosed
      -- without the mark the second equation of the reader applies
      have hfirst : first ≠ '!' := by simpa using hplain
      rw [List.cons_append] at hsplit ⊢
      rw [readSet?.eq_2 _ (fun rest heq => hfirst (List.cons.inj heq).1), hsplit, ← hset]
      rfl
    · have hsplit := splitSet?_eq_some_iff.2 ⟨henclosed, Eq.refl (members ++ ']' :: after)⟩
      have hset := members_iff.1 hmembers
      refine ⟨members.length + 2, ?_⟩
      rw [readSet?, hsplit, ← hset]
      rfl

/-- A token in front of others is read if they are. -/
theorem map_cons_eq_ok_iff {token : Token} {result : Except SyntaxError (List Token)}
    {tokens : List Token} :
    result.map (token :: ·) = .ok tokens ↔ ∃ more, result = .ok more ∧ tokens = token :: more := by
  cases result with
  | error error => simp [Except.map]
  | ok more => simp [Except.map, eq_comm]

/-- What is read is spelled by the text. -/
theorem reads_of_readTokens {fuel position : Nat} {atStart : Bool} {text : List Char}
    {tokens : List Token} (hfuel : text.length ≤ fuel)
    (h : readTokens fuel position atStart text = .ok tokens) : Reads atStart text tokens := by
  induction fuel generalizing position atStart text tokens with
  | zero =>
    obtain rfl : text = [] := List.length_eq_zero_iff.1 (Nat.le_zero.1 hfuel)
    cases h
    exact .nil atStart
  | succ fuel ih =>
    cases text with
    | nil =>
      cases h
      exact .nil atStart
    | cons c rest =>
      have hrest : rest.length ≤ fuel := Nat.le_of_succ_le_succ hfuel
      unfold readTokens at h
      -- one case for each branch of the reader
      split at h
      · next hc =>
        subst hc
        obtain ⟨more, hmore, rfl⟩ := map_cons_eq_ok_iff.1 h
        exact .anyChar atStart (ih hrest hmore)
      next hquestion =>
        split at h
        · next hc =>
          subst hc
          split at h
          · cases h
          · split at h
            · cases h
            next hstart =>
              obtain rfl : atStart = true := by simpa using hstart
              split at h
              · cases h
                exact .lastDirectories
              · obtain ⟨more, hmore, rfl⟩ := map_cons_eq_ok_iff.1 h
                refine .directories (ih ?_ hmore)
                simp only [List.length_cons] at hrest
                omega
              · cases h
          · next hlong hone =>
            obtain ⟨more, hmore, rfl⟩ := map_cons_eq_ok_iff.1 h
            refine .anyText atStart ?_ (ih hrest hmore)
            intro hstar
            obtain ⟨after, rfl⟩ := List.head?_eq_some_iff.1 hstar
            exact hone after rfl
        next hstar =>
          split at h
          · next hc =>
            subst hc
            split at h
            · cases h
            next token size after hset =>
              obtain ⟨more, hmore, rfl⟩ := map_cons_eq_ok_iff.1 h
              obtain ⟨members, set, henclosed, hmembers, ⟨hplain, rfl, rfl⟩ | ⟨rfl, rfl⟩⟩ :=
                readSet?_eq_some_iff.1 ⟨size, hset⟩
              · refine .oneOf atStart henclosed hplain hmembers (ih ?_ hmore)
                simp only [List.length_append, List.length_cons] at hrest
                omega
              · refine .noneOf atStart henclosed hmembers (ih ?_ hmore)
                simp only [List.length_append, List.length_cons] at hrest
                omega
          · next hbracket =>
            obtain ⟨more, hmore, rfl⟩ := map_cons_eq_ok_iff.1 h
            exact .literal atStart hquestion hstar hbracket (ih hrest hmore)

/-- What the text spells is read. -/
theorem readTokens_of_reads {atStart : Bool} {text : List Char} {tokens : List Token}
    (h : Reads atStart text tokens) (fuel position : Nat) (hfuel : text.length ≤ fuel) :
    readTokens fuel position atStart text = .ok tokens := by
  -- there is fuel for the first character of any text that has one
  have hburn {c : Char} {rest : List Char} {fuel : Nat} (hfuel : (c :: rest).length ≤ fuel) :
      ∃ less, fuel = less + 1 ∧ rest.length ≤ less :=
    ⟨fuel - 1, by simp only [List.length_cons] at hfuel; omega,
      by simp only [List.length_cons] at hfuel; omega⟩
  induction h generalizing fuel position with
  | nil => cases fuel <;> rfl
  | literal atStart hquestion hstar hbracket _ ih =>
    obtain ⟨fuel, rfl, hrest⟩ := hburn hfuel
    unfold readTokens
    rw [if_neg hquestion, if_neg hstar, if_neg hbracket, ih fuel _ hrest]
    rfl
  | anyChar atStart _ ih =>
    obtain ⟨fuel, rfl, hrest⟩ := hburn hfuel
    unfold readTokens
    rw [if_pos rfl, ih fuel _ hrest]
    rfl
  | @anyText atStart text tokens hone _ ih =>
    obtain ⟨fuel, rfl, hrest⟩ := hburn hfuel
    unfold readTokens
    rw [if_neg (by decide), if_pos rfl]
    cases text with
    | nil =>
      show Except.map _ _ = _
      rw [ih fuel _ hrest]
      rfl
    | cons c text =>
      have hc : c ≠ '*' := by simpa using hone
      split
      · next heq => exact absurd (List.cons.inj heq).1 hc
      · next heq => exact absurd (List.cons.inj heq).1 hc
      · rw [ih fuel _ hrest]
        rfl
  | lastDirectories =>
    obtain ⟨fuel, rfl, -⟩ := hburn hfuel
    rfl
  | directories _ ih =>
    obtain ⟨fuel, rfl, hrest⟩ := hburn hfuel
    unfold readTokens
    show Except.map _ _ = _
    rw [ih fuel _ (by simp only [List.length_cons] at hrest; omega)]
    rfl
  | oneOf atStart henclosed hplain hmembers _ ih =>
    obtain ⟨fuel, rfl, hrest⟩ := hburn hfuel
    obtain ⟨size, hset⟩ :=
      readSet?_eq_some_iff.2 ⟨_, _, henclosed, hmembers, .inl ⟨hplain, rfl, rfl⟩⟩
    unfold readTokens
    rw [if_neg (by decide), if_neg (by decide), if_pos rfl, hset]
    show Except.map _ _ = _
    rw [ih fuel _ (by simp only [List.length_append, List.length_cons] at hrest; omega)]
    rfl
  | noneOf atStart henclosed hmembers _ ih =>
    obtain ⟨fuel, rfl, hrest⟩ := hburn hfuel
    obtain ⟨size, hset⟩ := readSet?_eq_some_iff.2 ⟨_, _, henclosed, hmembers, .inr ⟨rfl, rfl⟩⟩
    unfold readTokens
    rw [if_neg (by decide), if_neg (by decide), if_pos rfl, hset]
    show Except.map _ _ = _
    rw [ih fuel _ (by simp only [List.length_append, List.length_cons] at hrest; omega)]
    rfl

/-- A text is read as the pattern whose tokens it spells. -/
theorem parse_eq_ok_iff {text : String} {p : Pattern} :
    Pattern.parse text = .ok p ↔ Reads true text.toList p.tokens := by
  unfold Pattern.parse
  constructor
  · intro h
    cases hread : readTokens text.toList.length 0 true text.toList with
    | error error =>
      rw [hread] at h
      cases h
    | ok tokens =>
      rw [hread] at h
      cases h
      exact reads_of_readTokens (Nat.le_refl _) hread
  · intro h
    rw [readTokens_of_reads h _ 0 (Nat.le_refl _)]
    rfl

end RenderCheck.Glob

namespace RenderCheck

/-! ## Names of images -/

/-- A file name is a part between separators. -/
theorem Path.no_separator_of_fileName? {p : Path} {name : String} (h : p.fileName? = some name) :
    '/' ∉ name.toList :=
  (isName_of_fileName? h).2.no_separator

namespace Comparator

variable {μ : Type}

/-- The images of a configuration that can be used are the files whose names are
    in the language of its pattern: of the tokens that it spells, and it spells
    them in one way. No file is an image if a separator stands for itself in the
    pattern. -/
theorem isImage_iff_stands {settings : List Setting} {config : Config}
    (h : Config.build settings = .ok config) (toolbox : Tool.Toolbox) (backend : Backend μ) :
    ∃ (tokens : List Glob.Token) (c : Comparator μ),
      (∀ other, Glob.Reads true config.imagePattern.toList other ↔ other = tokens) ∧
      withBackend config toolbox backend = .ok c ∧
      (∀ pair, c.isImage pair = true ↔
        ∃ name, pair.fileName? = some name ∧ Glob.Stands tokens name.toList) ∧
      (.literal '/' ∈ tokens → ∀ pair, c.isImage pair = false) := by
  obtain ⟨pattern, hparse, hpattern⟩ := Config.exists_pattern_of_build h
  have hwith : ∃ c, withBackend config toolbox backend = .ok c ∧ c.imagePattern = pattern := by
    unfold withBackend
    rw [hpattern]
    exact ⟨_, rfl, rfl⟩
  obtain ⟨c, hc, rfl⟩ := hwith
  have himage (pair : FilePair) : c.isImage pair = true ↔
      ∃ name, pair.fileName? = some name ∧ Glob.Stands c.imagePattern.tokens name.toList := by
    unfold isImage
    cases pair.fileName? with
    | none => simp
    | some name => simp [Glob.Pattern.accepts_iff]
  refine ⟨c.imagePattern.tokens, c, ?_, hc, himage, ?_⟩
  · intro other
    constructor
    · intro hother
      have hsame : Glob.Pattern.parse config.imagePattern = .ok ⟨other⟩ :=
        Glob.parse_eq_ok_iff.2 hother
      rw [hparse] at hsame
      rw [Except.ok.inj hsame]
    · rintro rfl
      exact Glob.parse_eq_ok_iff.1 hparse
  · intro hliteral pair
    rw [Bool.eq_false_iff]
    intro haccepted
    obtain ⟨name, hname, hstands⟩ := (himage pair).1 haccepted
    -- a name holds no separator, so what asks for one accepts none
    exact Path.no_separator_of_fileName? hname (hstands.mem_of_literal hliteral)

/-! ## Names that begin with a member of a set -/

namespace Initials

/-- A configuration whose images begin with a bracket or one of three letters. -/
def config : Config :=
  { imagePattern := "**/[]x-z]*" }

/-- What its pattern spells. -/
def tokens : List Glob.Token :=
  [.anyDirectories, .oneOf [⟨']', ']'⟩, ⟨'x', 'z'⟩], .anyText]

/-- Directories stand for nothing in a file name, a bracket in front is a member
    of the set, and anything may follow. -/
theorem stands_iff {name : List Char} (hname : '/' ∉ name) :
    Glob.Stands tokens name ↔
      ∃ first rest, name = first :: rest ∧ (first = ']' ∨ 'x' ≤ first ∧ first ≤ 'z') := by
  have hset (c : Char) :
      Glob.InSet [⟨']', ']'⟩, ⟨'x', 'z'⟩] c ↔ c = ']' ∨ 'x' ≤ c ∧ c ≤ 'z' := by
    have hbracket : ']' ≤ c ∧ c ≤ ']' ↔ c = ']' :=
      ⟨fun h => Char.le_antisymm h.2 h.1, fun h => by rw [h]; decide⟩
    simp [Glob.InSet, hbracket]
  constructor
  · intro h
    obtain - | ⟨hdirectories, hrest⟩ := h
    obtain - | ⟨hmember, -⟩ := hrest
    cases hmember with
    | @oneOf _ first _ hfirst =>
      -- without a separator `**` takes nothing, or leaves too little
      cases hdirectories with
      | noDirectory => exact ⟨first, _, rfl, (hset first).1 hfirst⟩
      | directories taken => exact absurd (by simp) hname
  · rintro ⟨first, rest, rfl, hfirst⟩
    refine .cons (.noDirectory _) (.cons (.oneOf rest ((hset first).2 hfirst)) (.cons ?_ .nil))
    simpa using Glob.Token.Takes.anyText rest []

/-- The images are the files whose names begin like that. -/
theorem isImage_iff_initial :
    Config.build [.imagePattern "**/[]x-z]*"] = .ok config ∧
    ∀ toolbox : Tool.Toolbox, ∃ c : Comparator Unit, withBackend config toolbox .native = .ok c ∧
      ∀ pair, c.isImage pair = true ↔ ∃ name first rest, pair.fileName? = some name ∧
        name.toList = first :: rest ∧ (first = ']' ∨ 'x' ≤ first ∧ first ≤ 'z') := by
  have hbuild : Config.build [.imagePattern "**/[]x-z]*"] = .ok config := by
    decide +kernel
  refine ⟨hbuild, fun toolbox => ?_⟩
  obtain ⟨spelled, c, hreads, hc, himage, -⟩ :=
    isImage_iff_stands hbuild toolbox (Backend.native : Backend Unit)
  have hparse : Glob.Pattern.parse config.imagePattern = .ok ⟨tokens⟩ := by decide +kernel
  obtain rfl : tokens = spelled := (hreads tokens).1 (Glob.parse_eq_ok_iff.1 hparse)
  refine ⟨c, hc, fun pair => ?_⟩
  rw [himage]
  constructor
  · rintro ⟨name, hname, hstands⟩
    obtain ⟨first, rest, htext, hfirst⟩ :=
      (stands_iff (Path.no_separator_of_fileName? hname)).1 hstands
    exact ⟨name, first, rest, hname, htext, hfirst⟩
  · rintro ⟨name, first, rest, hname, htext, hfirst⟩
    exact ⟨name, hname,
      (stands_iff (Path.no_separator_of_fileName? hname)).2 ⟨first, rest, htext, hfirst⟩⟩

end Initials

end Comparator

end RenderCheck
