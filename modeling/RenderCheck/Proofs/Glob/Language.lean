import RenderCheck.Glob.Basic

/-! # The language of a pattern

    Matching keeps a list of what may be left of a text, and passes it from
    token to token. What the tokens mean is said here without such a list: each
    takes a share off the front of the text (`Token.Takes`), and a pattern
    stands for the texts of which its tokens, from left to right, leave nothing
    (`Stands`).

    * **Shares**: what a token takes and what it leaves.
    * **What may be left** is listed by `Token.leave`, for texts that are tails
      of one another (`mem_leave`).
    * **Matching** decides the language (`Pattern.accepts_iff`). -/

namespace RenderCheck.Glob

/-! ## Shares -/

/-- The character lies in one of the ranges, whose ends belong to them. -/
def InSet (set : List Range) (c : Char) : Prop :=
  ∃ range ∈ set, range.first ≤ c ∧ c ≤ range.last

/-- A token takes a share off the front of a text; the second text is what it
    leaves. -/
inductive Token.Takes : Token → List Char → List Char → Prop where
  /-- A character takes itself. -/
  | literal (c : Char) (rest : List Char) : Takes (.literal c) (c :: rest) rest
  /-- `?` takes any character. -/
  | anyChar (c : Char) (rest : List Char) : Takes .anyChar (c :: rest) rest
  /-- `[set]` takes a character of the set. -/
  | oneOf {set : List Range} {c : Char} (rest : List Char) :
      InSet set c → Takes (.oneOf set) (c :: rest) rest
  /-- `[!set]` takes a character that is not in the set. -/
  | noneOf {set : List Range} {c : Char} (rest : List Char) :
      ¬InSet set c → Takes (.noneOf set) (c :: rest) rest
  /-- `*` takes any text, also none. -/
  | anyText (taken rest : List Char) : Takes .anyText (taken ++ rest) rest
  /-- `**` may take nothing. -/
  | noDirectory (text : List Char) : Takes .anyDirectories text text
  /-- `**` may take all up to some separator, and that too. -/
  | directories (taken rest : List Char) : Takes .anyDirectories (taken ++ '/' :: rest) rest
  /-- `**` may take all there is. -/
  | everything (text : List Char) : Takes .anyDirectories text []

/-- The tokens, from left to right, take all of the text. -/
inductive Stands : List Token → List Char → Prop where
  | nil : Stands [] []
  | cons {token : Token} {tokens : List Token} {text rest : List Char} :
      token.Takes text rest → Stands tokens rest → Stands (token :: tokens) text

/-- What a token leaves is a tail of what it found. -/
theorem Token.Takes.suffix {token : Token} {text rest : List Char} (h : token.Takes text rest) :
    rest <:+ text := by
  cases h with
  | literal c | anyChar c => exact List.suffix_cons _ rest
  | oneOf _ _ | noneOf _ _ => exact List.suffix_cons _ rest
  | anyText taken => exact List.suffix_append taken rest
  | noDirectory => exact List.suffix_refl text
  | directories taken => exact ⟨taken ++ ['/'], by simp⟩
  | everything => exact List.nil_suffix

/-- A character of the pattern that stands for itself is in every text that the
    pattern stands for. -/
theorem Stands.mem_of_literal {tokens : List Token} {text : List Char} (h : Stands tokens text)
    {c : Char} (hc : .literal c ∈ tokens) : c ∈ text := by
  induction h with
  | nil => cases hc
  | cons htakes _ ih =>
    rcases List.mem_cons.1 hc with rfl | hc
    · cases htakes
      exact List.mem_cons_self
    · exact htakes.suffix.subset (ih hc)

/-! ## What may be left -/

theorem mem_tails {rest text : List Char} : rest ∈ tails text ↔ rest <:+ text := by
  induction text with
  | nil => simp [tails]
  | cons c text ih => simp [tails, ih, List.suffix_cons_iff]

/-- Texts that are tails of one another, the longer ones first. -/
abbrev Nested (texts : List (List Char)) : Prop :=
  texts.Pairwise fun longer shorter => shorter <:+ longer

theorem nested_tails (text : List Char) : Nested (tails text) := by
  induction text with
  | nil => exact List.pairwise_singleton _ _
  | cons c text ih =>
    refine List.pairwise_cons.2 ⟨?_, ih⟩
    intro shorter hshorter
    exact (mem_tails.1 hshorter).trans (List.suffix_cons c text)

/-- Every text among nested ones is a tail of the first. -/
theorem Nested.suffix_head {longest : List Char} {texts : List (List Char)}
    (h : Nested (longest :: texts)) {text : List Char} (htext : text ∈ longest :: texts) :
    text <:+ longest := by
  rcases List.mem_cons.1 htext with rfl | htext
  · exact List.suffix_refl text
  · exact (List.pairwise_cons.1 h).1 text htext

theorem mem_takeChar {test : Char → Bool} {texts : List (List Char)} {rest : List Char} :
    rest ∈ takeChar test texts ↔ ∃ c, test c = true ∧ c :: rest ∈ texts := by
  unfold takeChar
  rw [List.mem_filterMap]
  constructor
  · rintro ⟨text, htext, hrest⟩
    cases text with
    | nil => cases hrest
    | cons c text =>
      by_cases htest : test c = true
      · obtain rfl : text = rest := by simpa [htest] using hrest
        exact ⟨c, htest, htext⟩
      · simp [htest] at hrest
  · rintro ⟨c, htest, htext⟩
    exact ⟨c :: rest, htext, by simp [htest]⟩

/-- Texts with their first character off are still nested. -/
theorem Nested.takeChar (test : Char → Bool) {texts : List (List Char)} (h : Nested texts) :
    Nested (Glob.takeChar test texts) := by
  induction texts with
  | nil => exact .nil
  | cons text texts ih =>
    obtain ⟨hlonger, hnested⟩ := List.pairwise_cons.1 h
    cases text with
    | nil => exact ih hnested
    | cons c text =>
      by_cases htest : test c = true
      · have hcons : Glob.takeChar test ((c :: text) :: texts)
            = text :: Glob.takeChar test texts := by
          simp [Glob.takeChar, htest]
        rw [hcons]
        refine List.pairwise_cons.2 ⟨?_, ih hnested⟩
        intro shorter hshorter
        obtain ⟨c', -, hmem⟩ := mem_takeChar.1 hshorter
        -- either both texts are the same, or the shorter one lies behind the character
        rcases List.suffix_cons_iff.1 (hlonger _ hmem) with heq | hbehind
        · obtain ⟨-, rfl⟩ := List.cons.inj heq
          exact List.suffix_refl shorter
        · exact (List.suffix_cons c' shorter).trans hbehind
      · have hcons : Glob.takeChar test ((c :: text) :: texts) = Glob.takeChar test texts := by
          simp [Glob.takeChar, htest]
        rw [hcons]
        exact ih hnested

theorem mem_afterDirectories {text rest : List Char} :
    rest ∈ afterDirectories text ↔ Token.anyDirectories.Takes text rest := by
  unfold afterDirectories
  rw [List.cons_append, List.mem_cons, List.mem_append, List.mem_filterMap, List.mem_singleton]
  constructor
  · rintro (rfl | ⟨tail, htail, hrest⟩ | rfl)
    · exact .noDirectory rest
    -- the tail begins with the separator that ends the share
    · split at hrest
      · cases hrest
        obtain ⟨taken, rfl⟩ := mem_tails.1 htail
        exact .directories taken rest
      · cases hrest
    · exact .everything text
  · intro h
    cases h with
    | noDirectory => exact .inl rfl
    | directories taken =>
      have htail : '/' :: rest ∈ tails (taken ++ '/' :: rest) :=
        mem_tails.2 (List.suffix_append taken _)
      exact .inr (.inl ⟨'/' :: rest, htail, rfl⟩)
    | everything => exact .inr (.inr rfl)

theorem any_contains_iff {set : List Range} {c : Char} :
    (set.any (·.contains c)) = true ↔ InSet set c := by
  simp [InSet, Range.contains]

/-- What is listed after a token is what it may leave of the texts before it. -/
theorem mem_leave (token : Token) {texts : List (List Char)} (h : Nested texts)
    {rest : List Char} : rest ∈ token.leave texts ↔ ∃ text ∈ texts, token.Takes text rest := by
  cases token with
  | literal c =>
    show rest ∈ takeChar (· == c) texts ↔ _
    rw [mem_takeChar]
    constructor
    · rintro ⟨c', heq, htext⟩
      obtain rfl : c' = c := by simpa using heq
      exact ⟨_, htext, .literal c' rest⟩
    · rintro ⟨text, htext, ⟨⟩⟩
      exact ⟨c, by simp, htext⟩
  | anyChar =>
    show rest ∈ takeChar (fun _ => true) texts ↔ _
    rw [mem_takeChar]
    constructor
    · rintro ⟨c, -, htext⟩
      exact ⟨_, htext, .anyChar c rest⟩
    · rintro ⟨text, htext, ⟨⟩⟩
      exact ⟨_, rfl, htext⟩
  | oneOf set =>
    show rest ∈ takeChar (fun c => set.any (·.contains c)) texts ↔ _
    rw [mem_takeChar]
    constructor
    · rintro ⟨c, hin, htext⟩
      exact ⟨_, htext, .oneOf rest (any_contains_iff.1 hin)⟩
    · rintro ⟨text, htext, htakes⟩
      cases htakes with
      | oneOf _ hin => exact ⟨_, any_contains_iff.2 hin, htext⟩
  | noneOf set =>
    show rest ∈ takeChar (fun c => !set.any (·.contains c)) texts ↔ _
    rw [mem_takeChar]
    constructor
    · rintro ⟨c, hout, htext⟩
      refine ⟨_, htext, .noneOf rest fun hin => ?_⟩
      rw [any_contains_iff.2 hin] at hout
      cases hout
    · rintro ⟨text, htext, htakes⟩
      cases htakes with
      | noneOf _ hout =>
        refine ⟨_, ?_, htext⟩
        rw [Bool.not_eq_true', Bool.eq_false_iff]
        exact fun hin => hout (any_contains_iff.1 hin)
  -- what the longest text may be shortened to, the shorter ones may be too
  | anyText =>
    cases texts with
    | nil => simp [Token.leave]
    | cons longest texts =>
      show rest ∈ tails longest ↔ _
      rw [mem_tails]
      constructor
      · rintro ⟨taken, rfl⟩
        exact ⟨_, List.mem_cons_self, .anyText taken rest⟩
      · rintro ⟨text, htext, htakes⟩
        exact htakes.suffix.trans (h.suffix_head htext)
  | anyDirectories =>
    cases texts with
    | nil => simp [Token.leave]
    | cons longest texts =>
      show rest ∈ (tails longest).filter ((longest :: texts).flatMap afterDirectories).contains ↔ _
      rw [List.mem_filter, mem_tails, List.contains_iff_mem, List.mem_flatMap]
      simp only [mem_afterDirectories]
      constructor
      · rintro ⟨-, hleft⟩
        exact hleft
      · rintro ⟨text, htext, htakes⟩
        exact ⟨htakes.suffix.trans (h.suffix_head htext), text, htext, htakes⟩

/-- What is listed after a token is nested again. -/
theorem Nested.leave (token : Token) {texts : List (List Char)} (h : Nested texts) :
    Nested (token.leave texts) := by
  cases token with
  | anyText =>
    cases texts with
    | nil => exact .nil
    | cons longest texts => exact nested_tails longest
  | anyDirectories =>
    cases texts with
    | nil => exact .nil
    | cons longest texts => exact (nested_tails longest).filter _
  | _ => exact h.takeChar _

/-! ## Matching -/

/-- Nothing may be left in the end if the tokens stand for one of the texts. -/
theorem nil_mem_foldl_leave (tokens : List Token) {texts : List (List Char)} (h : Nested texts) :
    [] ∈ tokens.foldl Token.leave texts ↔ ∃ text ∈ texts, Stands tokens text := by
  induction tokens generalizing texts with
  | nil =>
    rw [List.foldl_nil]
    constructor
    · intro hnil
      exact ⟨[], hnil, .nil⟩
    · rintro ⟨text, htext, ⟨⟩⟩
      exact htext
  | cons token tokens ih =>
    rw [List.foldl_cons, ih (h.leave token)]
    constructor
    · rintro ⟨rest, hrest, hstands⟩
      obtain ⟨text, htext, htakes⟩ := (mem_leave token h).1 hrest
      exact ⟨text, htext, .cons htakes hstands⟩
    · rintro ⟨text, htext, hstands⟩
      cases hstands with
      | cons htakes hstands => exact ⟨_, (mem_leave token h).2 ⟨text, htext, htakes⟩, hstands⟩

/-- A pattern accepts the texts that its tokens stand for. -/
theorem Pattern.accepts_iff (p : Pattern) (text : List Char) :
    p.accepts text = true ↔ Stands p.tokens text := by
  unfold Pattern.accepts
  rw [List.contains_iff_mem, nil_mem_foldl_leave p.tokens (List.pairwise_singleton _ text)]
  simp

end RenderCheck.Glob
