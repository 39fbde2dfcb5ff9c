import RenderCheck.Binary64.Numeral
import RenderCheck.Proofs.Binary64.Nearest

/-! # What numerals are

    The written forms of numbers as a grammar, one relation for each part of a
    numeral, and the number each of them stands for. The reader accepts the
    texts of this grammar and no others, and what it returns is what they stand
    for.

    * **Parts**: signs (`IsSign`), words in any case, fractions (`IsFraction`) and
      exponents (`IsExponent`), each found by its own part of the reader.
    * **Numerals**: `Spells` relates a text to what it spells, and the reader
      decides it (`Numeral.read?_eq_some_iff`).
    * **Numbers**: `Denotes` relates a numeral to the nearest number, and `Says`
      a text to its number (`Binary64.read?_eq_some_iff`). -/

namespace RenderCheck

namespace Numeral

/-! ## Parts of a numeral -/

/-- A text that consists of digits. -/
def AreDigits (text : List Char) : Prop :=
  ∀ c ∈ text, c.isDigit = true

instance (text : List Char) : Decidable (AreDigits text) :=
  List.decidableBAll _ text

/-- An optional sign, and whether it is a minus. -/
inductive IsSign : List Char → Bool → Prop where
  | absent : IsSign [] false
  | plus : IsSign ['+'] false
  | minus : IsSign ['-'] true

/-- A word with each of its letters in either case. -/
def IsInAnyCase (word text : List Char) : Prop :=
  text.map Char.toLower = word

instance (word text : List Char) : Decidable (IsInAnyCase word text) :=
  inferInstanceAs (Decidable (text.map Char.toLower = word))

/-- An optional point with the digits after it. -/
inductive IsFraction : List Char → List Char → Prop where
  | absent : IsFraction [] []
  | pointed {digits : List Char} : AreDigits digits → IsFraction ('.' :: digits) digits

/-- The number of a sign and digits. -/
def powerOf (negative : Bool) (digits : List Char) : Int :=
  let size : Int := Nat.ofDigitChars 10 digits 0
  if negative then -size else size

/-- An optional power of ten: a mark, an optional sign and at least one digit. -/
inductive IsExponent : List Char → Int → Prop where
  | absent : IsExponent [] 0
  | marked {mark : Char} {sign digits : List Char} {negative : Bool} :
    mark = 'e' ∨ mark = 'E' → IsSign sign negative → digits ≠ [] → AreDigits digits →
    IsExponent (mark :: sign ++ digits) (powerOf negative digits)

/-- What stands after the sign: a word, or digits with an optional point, at
    least one digit in all, and an optional exponent. -/
inductive IsBody (negative : Bool) : List Char → Numeral → Prop where
  | nan {word : List Char} : IsInAnyCase ['n', 'a', 'n'] word → IsBody negative word (.nan negative)
  | infinity {word : List Char} :
    IsInAnyCase ['i', 'n', 'f'] word ∨
      IsInAnyCase ['i', 'n', 'f', 'i', 'n', 'i', 't', 'y'] word →
    IsBody negative word (.infinity negative)
  | decimal {whole point fraction power : List Char} {exponent : Int} :
    AreDigits whole → IsFraction point fraction → whole ++ fraction ≠ [] →
    IsExponent power exponent →
    IsBody negative (whole ++ point ++ power) (.decimal negative whole fraction exponent)

/-- The text is the numeral: an optional sign and the rest. -/
inductive Spells : List Char → Numeral → Prop where
  | signed {sign body : List Char} {negative : Bool} {numeral : Numeral} :
    IsSign sign negative → IsBody negative body numeral → Spells (sign ++ body) numeral

/-! ## Signs -/

theorem exists_sign (text : List Char) :
    ∃ sign, IsSign sign (splitSign text).1 ∧ text = sign ++ (splitSign text).2 := by
  unfold splitSign
  split
  · exact ⟨['-'], .minus, rfl⟩
  · exact ⟨['+'], .plus, rfl⟩
  · exact ⟨[], .absent, rfl⟩

/-- A text that has no sign of its own is what remains after a sign. -/
theorem splitSign_append {sign body : List Char} {negative : Bool} (hsign : IsSign sign negative)
    (hminus : body.head? ≠ some '-') (hplus : body.head? ≠ some '+') :
    splitSign (sign ++ body) = (negative, body) := by
  cases hsign with
  | plus => rfl
  | minus => rfl
  | absent =>
    rw [List.nil_append]
    unfold splitSign
    split
    · exact absurd rfl hminus
    · exact absurd rfl hplus
    · rfl

/-! ## Digits -/

theorem AreDigits.head?_ne {digits : List Char} (h : AreDigits digits) {c : Char}
    (hc : c.isDigit = false) : digits.head? ≠ some c := by
  intro hhead
  rw [h c (List.mem_of_head? hhead)] at hc
  exact absurd hc (by decide)

theorem areDigits_takeWhile (text : List Char) : AreDigits (text.takeWhile Char.isDigit) :=
  fun _ hc => List.all_eq_true.1 List.all_takeWhile _ hc

theorem areDigits_iff_all {text : List Char} : AreDigits text ↔ text.all Char.isDigit = true :=
  List.all_eq_true.symm

/-- Digits are split off up to what is no digit. -/
theorem splitDigits_append {digits rest : List Char} (hdigits : AreDigits digits)
    (hrest : ∀ c, rest.head? = some c → c.isDigit = false) :
    splitDigits (digits ++ rest) = (digits, rest) := by
  have hnone : rest.takeWhile Char.isDigit = [] := by
    cases rest with
    | nil => rfl
    | cons c rest => rw [List.takeWhile_cons_of_neg (by rw [hrest c rfl]; decide)]
  have hall : rest.dropWhile Char.isDigit = rest := by
    cases rest with
    | nil => rfl
    | cons c rest => rw [List.dropWhile_cons_of_neg (by rw [hrest c rfl]; decide)]
  rw [splitDigits, List.takeWhile_append_of_pos hdigits, List.dropWhile_append_of_pos hdigits,
    hnone, hall, List.append_nil]

/-! ## Exponents and fractions -/

theorem IsExponent.head?_eq {text : List Char} {exponent : Int} (h : IsExponent text exponent)
    {c : Char} (hc : text.head? = some c) : c = 'e' ∨ c = 'E' := by
  cases h with
  | absent => exact absurd hc (by simp)
  | marked hmark _ _ _ =>
    rw [List.cons_append, List.head?_cons, Option.some.injEq] at hc
    exact hc ▸ hmark

theorem IsFraction.head?_eq {point fraction : List Char} (h : IsFraction point fraction) {c : Char}
    (hc : point.head? = some c) : c = '.' := by
  cases h with
  | absent => exact absurd hc (by simp)
  | pointed _ => exact (Option.some.inj hc).symm

theorem readExponent?_eq_some_iff {text : List Char} {exponent : Int} :
    readExponent? text = some exponent ↔ IsExponent text exponent := by
  constructor
  · intro h
    unfold readExponent? at h
    split at h
    · rw [Option.some.injEq] at h
      exact h ▸ .absent
    · next mark rest =>
      obtain ⟨sign, hsign, hrest⟩ := exists_sign rest
      split at h
      · next hmark =>
        dsimp only at h
        split at h
        · next hdigits =>
          rw [Option.some.injEq] at h
          rw [hrest, ← h]
          exact .marked hmark hsign hdigits.1 (areDigits_iff_all.2 hdigits.2)
        · exact absurd h (by simp)
      · exact absurd h (by simp)
  · intro h
    cases h with
    | absent => rfl
    | marked hmark hsign hne hdigits =>
      have hsplit := splitSign_append hsign (hdigits.head?_ne (by decide))
        (hdigits.head?_ne (by decide))
      simp only [List.cons_append, readExponent?, if_pos hmark, hsplit]
      rw [if_pos ⟨hne, areDigits_iff_all.1 hdigits⟩]
      rfl

theorem exists_fraction (text : List Char) :
    ∃ point, IsFraction point (splitFraction text).1 ∧ text = point ++ (splitFraction text).2 := by
  unfold splitFraction
  split
  · next rest =>
    refine ⟨'.' :: rest.takeWhile Char.isDigit, .pointed (areDigits_takeWhile rest), ?_⟩
    rw [splitDigits, List.cons_append, List.takeWhile_append_dropWhile]
  · exact ⟨[], .absent, rfl⟩

theorem splitFraction_append {point fraction power : List Char} {exponent : Int}
    (hpoint : IsFraction point fraction) (hpower : IsExponent power exponent) :
    splitFraction (point ++ power) = (fraction, power) := by
  cases hpoint with
  | absent =>
    rw [List.nil_append]
    unfold splitFraction
    split
    · exact absurd (hpower.head?_eq rfl) (by decide)
    · rfl
  | pointed hdigits =>
    refine splitDigits_append hdigits fun c hc => ?_
    rcases hpower.head?_eq hc with rfl | rfl <;> decide

/-! ## Numerals -/

/-- The first character of digits with an optional point is a digit or the
    point. -/
theorem exists_head {whole point fraction : List Char} (hwhole : AreDigits whole)
    (hpoint : IsFraction point fraction) (hne : whole ++ fraction ≠ []) (power : List Char) :
    ∃ c rest, whole ++ point ++ power = c :: rest ∧ (c.isDigit = true ∨ c = '.') := by
  cases whole with
  | cons c rest => exact ⟨c, rest ++ point ++ power, rfl, .inl (hwhole c List.mem_cons_self)⟩
  | nil =>
    cases hpoint with
    | absent => exact absurd rfl hne
    | pointed _ => exact ⟨'.', fraction ++ power, rfl, .inr rfl⟩

/-- Digits and the point are no letters. -/
theorem toLower_eq_self {c : Char} (h : c.isDigit = true ∨ c = '.') : c.toLower = c := by
  rcases h with hdigit | rfl
  · have hletter : ¬ (c ≥ 'A' ∧ c ≤ 'Z') := by
      simp only [Char.isDigit, Bool.and_eq_true, decide_eq_true_eq, UInt32.le_iff_toNat_le] at hdigit
      simp only [ge_iff_le, Char.le_def, UInt32.le_iff_toNat_le]
      rintro ⟨hlow, -⟩
      exact absurd (hlow.trans hdigit.2) (by decide)
    exact dif_neg hletter
  · rfl

/-- A word begins with its first letter, unless this is written as a capital. -/
theorem IsInAnyCase.head_eq {first c : Char} {word rest : List Char}
    (h : IsInAnyCase (first :: word) (c :: rest)) (hself : c.toLower = c) : c = first := by
  rw [IsInAnyCase, List.map_cons, hself] at h
  exact (List.cons_eq_cons.1 h).1

theorem isInAnyCase_iff {word text : List Char} :
    IsInAnyCase word text ↔ String.ofList (text.map Char.toLower) = String.ofList word := by
  rw [IsInAnyCase, String.ofList_inj]

theorem readBody?_eq_some_iff {negative : Bool} {text : List Char} {numeral : Numeral} :
    readBody? negative text = some numeral ↔ IsBody negative text numeral := by
  constructor
  · intro h
    unfold readBody? at h
    split at h
    · next hword =>
      rw [Option.some.injEq] at h
      exact h ▸ .nan (isInAnyCase_iff.2 hword)
    · next hword =>
      rw [Option.some.injEq] at h
      exact h ▸ .infinity (.inl (isInAnyCase_iff.2 hword))
    · next hword =>
      rw [Option.some.injEq] at h
      exact h ▸ .infinity (.inr (isInAnyCase_iff.2 hword))
    dsimp only at h
    split at h
    · exact absurd h (by simp)
    next hne =>
    obtain ⟨exponent, hexponent, rfl⟩ := Option.map_eq_some_iff.1 h
    obtain ⟨point, hpoint, hafter⟩ := exists_fraction (splitDigits text).2
    have htext : text = (splitDigits text).1 ++ (splitDigits text).2 :=
      List.takeWhile_append_dropWhile.symm
    have hbody : IsBody negative
        ((splitDigits text).1 ++ point ++ (splitFraction (splitDigits text).2).2)
        (.decimal negative (splitDigits text).1 (splitFraction (splitDigits text).2).1 exponent) :=
      .decimal (areDigits_takeWhile text) hpoint hne (readExponent?_eq_some_iff.1 hexponent)
    rwa [List.append_assoc, ← hafter, ← htext] at hbody
  · intro h
    cases h with
    | nan hword =>
      rw [isInAnyCase_iff] at hword
      rw [readBody?, hword]
      rfl
    | infinity hword =>
      rw [isInAnyCase_iff, isInAnyCase_iff] at hword
      rcases hword with hword | hword <;>
      · rw [readBody?, hword]
        rfl
    | @decimal whole point fraction power exponent hwhole hpoint hne hpower =>
      obtain ⟨c, rest, htext, hhead⟩ := exists_head hwhole hpoint hne power
      have hsplit : splitDigits (whole ++ point ++ power) = (whole, point ++ power) := by
        rw [List.append_assoc]
        refine splitDigits_append hwhole fun c hc => ?_
        rw [List.head?_append, Option.or_eq_some_iff] at hc
        rcases hc with hc | ⟨-, hc⟩
        · rw [hpoint.head?_eq hc]
          decide
        · rcases hpower.head?_eq hc with rfl | rfl <;> decide
      -- no word begins with a digit or the point
      have hword {first : Char} {word : List Char} (hfirst : ¬ (first.isDigit = true ∨ first = '.')) :
          String.ofList ((whole ++ point ++ power).map Char.toLower)
            ≠ String.ofList (first :: word) := by
        rw [Ne, ← isInAnyCase_iff, htext]
        intro hcase
        exact hfirst (hcase.head_eq (toLower_eq_self hhead) ▸ hhead)
      unfold readBody?
      split
      · next h => exact absurd h (hword (by decide))
      · next h => exact absurd h (hword (by decide))
      · next h => exact absurd h (hword (by decide))
      · simp only [hsplit, splitFraction_append hpoint hpower]
        rw [if_neg hne, readExponent?_eq_some_iff.2 hpower]
        rfl

/-- What stands after the sign has no sign of its own. -/
theorem IsBody.head?_ne {negative : Bool} {text : List Char} {numeral : Numeral}
    (h : IsBody negative text numeral) {c : Char} (hc : c = '-' ∨ c = '+') :
    text.head? ≠ some c := by
  intro hhead
  obtain ⟨rest, rfl⟩ := List.head?_eq_some_iff.1 hhead
  have hself : c.toLower = c := by rcases hc with rfl | rfl <;> decide
  generalize htext : c :: rest = text at h
  cases h with
  | nan hword =>
    subst htext
    rw [hword.head_eq hself] at hc
    exact absurd hc (by decide)
  | infinity hword =>
    subst htext
    rcases hword with hword | hword <;>
    · rw [hword.head_eq hself] at hc
      exact absurd hc (by decide)
  | decimal hwhole hpoint hne _ =>
    obtain ⟨first, others, hfirst, hdigit⟩ := exists_head hwhole hpoint hne _
    obtain rfl : c = first := (List.cons_eq_cons.1 (htext.trans hfirst)).1
    rcases hc with rfl | rfl <;> exact absurd hdigit (by decide)

/-- The reader of numerals accepts what spells one, and nothing else. -/
theorem read?_eq_some_iff {text : List Char} {numeral : Numeral} :
    Numeral.read? text = some numeral ↔ Spells text numeral := by
  constructor
  · intro h
    obtain ⟨sign, hsign, htext⟩ := exists_sign text
    rw [htext]
    exact .signed hsign (readBody?_eq_some_iff.1 h)
  · intro h
    cases h with
    | signed hsign hbody =>
      have hsplit := splitSign_append hsign (hbody.head?_ne (.inl rfl)) (hbody.head?_ne (.inr rfl))
      rw [Numeral.read?, hsplit]
      exact readBody?_eq_some_iff.2 hbody

/-! ## Numbers -/

/-- The number a numeral stands for. The one of a decimal is the nearest to its
    value, and of two that are equally near the even one; a value too large for
    every finite number stands for infinity. -/
inductive Denotes : Numeral → Binary64 → Prop where
  | nan {negative : Bool} : Denotes (.nan negative) (.nan negative)
  | infinity {negative : Bool} : Denotes (.infinity negative) (.infinity negative)
  | decimal {negative : Bool} {whole fraction : List Char} {exponent : Int} {m : Nat} :
    Binary64.IsNearest (Binary64.stepsOfDecimal (Nat.ofDigitChars 10 (whole ++ fraction) 0)
      (exponent - fraction.length)) m →
    Denotes (.decimal negative whole fraction exponent) (.ofMagnitude negative m)

theorem denotes_iff {numeral : Numeral} {x : Binary64} : Denotes numeral x ↔ numeral.value = x := by
  constructor
  · intro h
    cases h with
    | nan => rfl
    | infinity => rfl
    | decimal hnearest =>
      rw [(hnearest.eq (Binary64.nearestDecimal_isNearest _ _)), value]
  · rintro rfl
    cases numeral with
    | nan negative => exact .nan
    | infinity negative => exact .infinity
    | decimal negative whole fraction exponent =>
      exact .decimal (Binary64.nearestDecimal_isNearest _ _)

end Numeral

namespace Binary64

/-- The text is a numeral, and the number is the one it stands for. -/
def IsSaidBy (x : Binary64) (text : List Char) : Prop :=
  ∃ numeral, Numeral.Spells text numeral ∧ numeral.Denotes x

/-- Reading a text gives the number it says, if it says one. -/
theorem read?_eq_some_iff {text : List Char} {x : Binary64} :
    read? text = some x ↔ x.IsSaidBy text := by
  rw [read?, Option.map_eq_some_iff]
  refine exists_congr fun numeral => ?_
  rw [Numeral.read?_eq_some_iff, Numeral.denotes_iff]

/-- A text that is no numeral is not read. -/
theorem read?_eq_none_iff {text : List Char} :
    read? text = none ↔ ∀ numeral, ¬ Numeral.Spells text numeral := by
  rw [read?, Option.map_eq_none_iff, Option.eq_none_iff_forall_ne_some]
  exact forall_congr' fun numeral => not_congr Numeral.read?_eq_some_iff

end Binary64

end RenderCheck
