import RenderCheck.Proofs.Glob.Grammar

/-! # Which texts are patterns

    A text is a pattern if it can be cut into pieces, from left to right: sets
    that close, runs of stars, and single characters. A run has two stars at
    most, and one of two is a whole component. Nothing else can be wrong with a
    text: the reader finds tokens in exactly these (`exists_parse_iff`).

    * **Pieces**, and how each fits between its neighbors (`Piece.Fits`).
    * **From pieces to tokens** and back, one piece after the other. -/

namespace RenderCheck.Glob

/-! ## Pieces -/

/-- One piece of the text of a pattern. -/
inductive Piece where
  /-- A character outside of sets. -/
  | plain (c : Char)
  /-- A run of stars outside of sets. -/
  | stars (count : Nat)
  /-- A set with its members; `!` behind the opening bracket is none of them. -/
  | set (negated : Bool) (members : List Char)
  deriving DecidableEq

namespace Piece

/-- The piece as it is written. -/
def text : Piece → List Char
  | plain c => [c]
  | stars count => List.replicate count '*'
  | set negated members => '[' :: (if negated then ['!'] else []) ++ members ++ [']']

/-- The piece can stand between others. -/
def Fits (before : List Piece) (piece : Piece) (after : List Piece) : Prop :=
  match piece with
  -- stars belong to runs, and an opening bracket opens a set
  | plain c => c ≠ '*' ∧ c ≠ '['
  -- a run has all stars that there are, but two at most; one of two stands alone
  | stars count =>
    0 < count ∧ (∀ more, after.head? ≠ some (stars more)) ∧ count ≤ 2 ∧
      (count = 2 →
        (before = [] ∨ before.getLast? = some (plain '/')) ∧
        (after = [] ∨ after.head? = some (plain '/')))
  -- a set has a member and ends at the first closing bracket behind that
  | set negated members => Enclosed members ∧ (negated = false → members.head? ≠ some '!')

end Piece

/-- The text is cut into pieces that fit. -/
def InGrammar (text : List Char) : Prop :=
  ∃ pieces : List Piece, pieces.flatMap Piece.text = text ∧
    ∀ before piece after, pieces = before ++ piece :: after → piece.Fits before after

/-- Behind some pieces, all others fit. -/
def Continues (front pieces : List Piece) : Prop :=
  ∀ before piece after, pieces = before ++ piece :: after → piece.Fits (front ++ before) after

/-- The beginning, or a separator in front. -/
def startsComponent (front : List Piece) : Bool :=
  front = [] ∨ front.getLast? = some (.plain '/')

theorem startsComponent_concat (front : List Piece) (piece : Piece) :
    startsComponent (front ++ [piece]) = decide (piece = .plain '/') := by
  simp [startsComponent]

/-- A run of two stars fits where it is a whole component. -/
theorem fits_two {before after : List Piece} (hbefore : startsComponent before = true)
    (hafter : after = [] ∨ after.head? = some (.plain '/')) : (Piece.stars 2).Fits before after := by
  refine ⟨by decide, fun more hmore => ?_, Nat.le_refl 2, fun _ => ⟨of_decide_eq_true hbefore, hafter⟩⟩
  rcases hafter with rfl | hseparator
  · cases hmore
  · rw [hseparator] at hmore
    cases hmore

section Continues

variable {front rest : List Piece} {piece : Piece}

@[simp] theorem continues_nil (front : List Piece) : Continues front [] := by
  intro before piece after h
  simp at h

/-- The first piece fits, and the others fit behind it. -/
theorem continues_cons :
    Continues front (piece :: rest) ↔ piece.Fits front rest ∧ Continues (front ++ [piece]) rest := by
  constructor
  · intro h
    refine ⟨by simpa using h [] piece rest rfl, fun before other after heq => ?_⟩
    have hother := h (piece :: before) other after (by rw [heq, List.cons_append])
    rwa [List.append_assoc, List.singleton_append]
  · rintro ⟨hpiece, hrest⟩ before other after heq
    cases before with
    | nil =>
      obtain ⟨rfl, rfl⟩ := List.cons.inj heq
      simpa using hpiece
    | cons first before =>
      obtain ⟨rfl, rfl⟩ := List.cons.inj heq
      have hother := hrest before other after rfl
      rwa [List.append_assoc, List.singleton_append] at hother

/-- The text goes on with a star only in a run. -/
theorem head?_text (h : Continues front rest) :
    (rest.flatMap Piece.text).head? = some '*' ↔ ∃ more, rest.head? = some (.stars more) := by
  cases rest with
  | nil => simp
  | cons piece rest =>
    obtain ⟨hpiece, -⟩ := continues_cons.1 h
    cases piece with
    | plain c => simp [Piece.text, hpiece.1]
    | stars count =>
      obtain ⟨less, rfl⟩ := Nat.exists_eq_add_of_lt hpiece.1
      simp [Piece.text, List.replicate_succ]
    | set negated members => simp [Piece.text]

end Continues

/-! ## From pieces to tokens -/

/-- Pieces that fit spell tokens. -/
theorem exists_reads_of_continues {front pieces : List Piece} (h : Continues front pieces) :
    ∃ tokens, Reads (startsComponent front) (pieces.flatMap Piece.text) tokens := by
  -- the front grows with each piece, as it says where two stars fit
  induction pieces generalizing front with
  | nil => exact ⟨_, .nil _⟩
  | cons piece rest ih =>
    obtain ⟨hpiece, hrest⟩ := continues_cons.1 h
    obtain ⟨tokens, htokens⟩ := ih hrest
    rw [startsComponent_concat] at htokens
    cases piece with
    | plain c =>
      obtain ⟨hstar, hbracket⟩ := hpiece
      by_cases hquestion : c = '?'
      · subst hquestion
        exact ⟨_, .anyChar _ htokens⟩
      · have hseparator : decide (Piece.plain c = .plain '/') = decide (c = '/') := by simp
        rw [hseparator] at htokens
        exact ⟨_, .literal _ hquestion hstar hbracket htokens⟩
    | stars count =>
      obtain ⟨hpositive, hlongest, hshort, halone⟩ := hpiece
      have hcount : count = 1 ∨ count = 2 := by omega
      rcases hcount with rfl | rfl
      · refine ⟨_, .anyText _ ?_ htokens⟩
        intro hstar
        obtain ⟨more, hmore⟩ := (head?_text hrest).1 hstar
        exact hlongest more hmore
      · obtain ⟨hbefore, hafter⟩ := halone rfl
        have hstart : startsComponent front = true := decide_eq_true hbefore
        rw [hstart]
        cases rest with
        | nil => exact ⟨_, .lastDirectories⟩
        | cons next rest =>
          obtain rfl : next = .plain '/' := by simpa using hafter
          -- the separator behind two stars was read by itself, and goes with them
          cases htokens with
          | literal _ _ _ _ hmore => exact ⟨_, .directories hmore⟩
    | set negated members =>
      obtain ⟨henclosed, hplain⟩ := hpiece
      have hmembers : Members members (readRanges members) := members_iff.2 rfl
      have htext : (Piece.set negated members :: rest).flatMap Piece.text
          = '[' :: ((if negated then ['!'] else []) ++ (members ++ ']' :: rest.flatMap Piece.text)) := by
        simp [Piece.text]
      rw [htext]
      cases negated with
      | false => exact ⟨_, .oneOf _ henclosed (hplain rfl) hmembers htokens⟩
      | true => exact ⟨_, .noneOf _ henclosed hmembers htokens⟩

/-- What spells tokens is made of pieces that fit, wherever it begins in the same
    way. -/
theorem exists_continues_of_reads {atStart : Bool} {text : List Char} {tokens : List Token}
    (h : Reads atStart text tokens) :
    ∃ pieces : List Piece, pieces.flatMap Piece.text = text ∧
      ∀ front, startsComponent front = atStart → Continues front pieces := by
  -- for all fronts at once: behind one more piece there is another
  induction h with
  | nil => exact ⟨[], rfl, fun front _ => continues_nil front⟩
  | @literal _ c _ _ _ hstar hbracket _ ih =>
    obtain ⟨pieces, rfl, hfits⟩ := ih
    refine ⟨.plain c :: pieces, rfl, fun front _ => continues_cons.2 ⟨⟨hstar, hbracket⟩, ?_⟩⟩
    exact hfits _ (by rw [startsComponent_concat]; simp)
  | anyChar _ _ ih =>
    obtain ⟨pieces, rfl, hfits⟩ := ih
    refine ⟨.plain '?' :: pieces, rfl, fun front _ => continues_cons.2 ⟨⟨by decide, by decide⟩, ?_⟩⟩
    exact hfits _ (startsComponent_concat _ _)
  | anyText _ hone _ ih =>
    obtain ⟨pieces, rfl, hfits⟩ := ih
    refine ⟨.stars 1 :: pieces, rfl, fun front _ => ?_⟩
    have hrest : Continues (front ++ [.stars 1]) pieces := hfits _ (startsComponent_concat _ _)
    refine continues_cons.2 ⟨⟨by decide, fun more hmore => ?_, by decide, fun h => nomatch h⟩, hrest⟩
    exact hone ((head?_text hrest).2 ⟨more, hmore⟩)
  | lastDirectories =>
    refine ⟨[.stars 2], rfl, fun front hstart => continues_cons.2 ⟨?_, continues_nil _⟩⟩
    exact fits_two hstart (.inl rfl)
  | directories _ ih =>
    obtain ⟨pieces, rfl, hfits⟩ := ih
    refine ⟨.stars 2 :: .plain '/' :: pieces, rfl, fun front hstart => ?_⟩
    refine continues_cons.2 ⟨fits_two hstart (.inr rfl), continues_cons.2 ⟨⟨by decide, by decide⟩, ?_⟩⟩
    exact hfits _ (startsComponent_concat _ _)
  | @oneOf _ members _ _ _ henclosed hplain _ _ ih =>
    obtain ⟨pieces, rfl, hfits⟩ := ih
    refine ⟨.set false members :: pieces, by simp [Piece.text], fun front _ => ?_⟩
    refine continues_cons.2 ⟨⟨henclosed, fun _ => hplain⟩, hfits _ (startsComponent_concat _ _)⟩
  | @noneOf _ members _ _ _ henclosed _ _ ih =>
    obtain ⟨pieces, rfl, hfits⟩ := ih
    refine ⟨.set true members :: pieces, by simp [Piece.text], fun front _ => ?_⟩
    refine continues_cons.2 ⟨⟨henclosed, fun h => nomatch h⟩, hfits _ (startsComponent_concat _ _)⟩

/-- The texts that are patterns are those in the grammar. -/
theorem exists_parse_iff {text : String} :
    (∃ p, Pattern.parse text = .ok p) ↔ InGrammar text.toList := by
  constructor
  · rintro ⟨p, hp⟩
    obtain ⟨pieces, htext, hfits⟩ := exists_continues_of_reads (parse_eq_ok_iff.1 hp)
    exact ⟨pieces, htext, hfits [] rfl⟩
  · rintro ⟨pieces, htext, hfits⟩
    have hpieces : Continues [] pieces := hfits
    obtain ⟨tokens, htokens⟩ := exists_reads_of_continues hpieces
    rw [htext] at htokens
    exact ⟨⟨tokens⟩, parse_eq_ok_iff.2 htokens⟩

end RenderCheck.Glob
