import RenderCheck.Binary64.Printer
import RenderCheck.Proofs.Binary64.Numeral

/-! # What printing says

    A number is printed by a decimal that reads back as this number, in positional
    form: digits, and for a number that is not whole a point and more digits, the
    last of which is not zero.

    * **Shortest decimals** read back and end in no zero (`shortest_nearest`,
      `shortest_tight`).
    * **Positional form** keeps the value of a decimal (`Decimal.isBody_render`,
      `Decimal.nearestDecimal_positional`).
    * **Texts** of all numbers but NaNs read back bit by bit
      (`Binary64.read?_render`). -/

namespace RenderCheck

/-! ## Decimals without zeros at the end -/

namespace Decimal

/-- The digits do not end in zero. -/
def IsTight (d : Decimal) : Prop :=
  d.digits % 10 ≠ 0

theorem stripZeros_nearest (fuel : Nat) (d : Decimal) : (stripZeros fuel d).nearest = d.nearest := by
  induction fuel generalizing d with
  | zero => rfl
  | succ fuel ih =>
    unfold stripZeros
    split
    · next hzero =>
      have hdigits : d.digits = d.digits / 10 * 10 ^ 1 := by omega
      rw [ih, nearest, nearest, hdigits, Binary64.nearestDecimal_mul_pow, ← hdigits]
      rfl
    · rfl

theorem normalize_nearest (d : Decimal) : d.normalize.nearest = d.nearest := by
  unfold normalize
  split
  · rfl
  · exact stripZeros_nearest _ d

/-- The fuel suffices: each zero taken off makes the digits less than half. -/
theorem stripZeros_tight {fuel : Nat} {d : Decimal} (hpos : d.digits ≠ 0)
    (hfuel : d.digits < 2 ^ (fuel + 1)) : (stripZeros fuel d).IsTight := by
  induction fuel generalizing d with
  | zero =>
    rw [Nat.zero_add, pow_one] at hfuel
    rw [stripZeros, IsTight]
    omega
  | succ fuel ih =>
    unfold stripZeros
    split
    · rw [pow_succ] at hfuel
      refine ih ?_ ?_
      · dsimp only
        omega
      · dsimp only
        omega
    · next htight => exact htight

theorem normalize_tight {d : Decimal} (hpos : d.digits ≠ 0) : d.normalize.IsTight := by
  rw [normalize, if_neg hpos]
  exact stripZeros_tight hpos Nat.lt_log2_self

end Decimal

/-! ## Shortest decimals -/

namespace Binary64

/-- So many steps with all their digits. -/
theorem stepsOfDecimal_exact (count : Nat) {bits power : Nat} (hunit : stepsPerUnit = 2 ^ bits)
    (hpower : power = 5 ^ bits) : stepsOfDecimal (count * power) (-bits) = count := by
  have hten : (10 : ℚ) ^ bits = 2 ^ bits * 5 ^ bits := by
    rw [← mul_pow]
    norm_num
  rw [stepsOfDecimal, hunit, hpower, zpow_neg, zpow_natCast, hten]
  push_cast
  field_simp

/-- As many fives as there are twos in the unit give all digits of a magnitude. -/
theorem exists_exactDecimal : ∃ bits power : Nat, stepsPerUnit = 2 ^ bits ∧ power = 5 ^ bits ∧
    ∀ m, exactDecimal m = (Decimal.mk (steps m * power) (-bits)).normalize :=
  ⟨1074, Nat.pow 5 1074, stepsPerUnit_eq_pow, by decide +kernel, fun _ => rfl⟩

/-- All digits of a magnitude read back as this magnitude. -/
theorem exactDecimal_nearest {m : Nat} (hm : m ≤ infinityMagnitude) : (exactDecimal m).nearest = m := by
  obtain ⟨bits, power, hunit, hpower, hexact⟩ := exists_exactDecimal
  have hnearest := nearestDecimal_isNearest (steps m * power) (-bits)
  rw [stepsOfDecimal_exact (steps m) hunit hpower] at hnearest
  rw [hexact, Decimal.normalize_nearest, Decimal.nearest]
  exact hnearest.eq (.of_steps hm)

theorem exactDecimal_tight {m : Nat} (hpos : 0 < m) : (exactDecimal m).IsTight := by
  obtain ⟨bits, power, -, hpower, hexact⟩ := exists_exactDecimal
  rw [hexact]
  refine Decimal.normalize_tight (Nat.mul_pos (steps_pos hpos) ?_).ne'
  rw [hpower]
  exact Nat.pow_pos (by decide)

section Shortest

variable {m : Nat} (hpos : 0 < m) (hfinite : m < infinityMagnitude)

include hpos hfinite

/-- The decimal by which a magnitude is shown is one that reads back and has no
    zero at the end of its digits. -/
theorem shortest_spec : (shortest m).nearest = m ∧ (shortest m).IsTight := by
  unfold shortest
  dsimp only
  rcases hfound : List.find? _ _ with - | d
  · rw [Option.getD_none]
    exact ⟨exactDecimal_nearest hfinite.le, exactDecimal_tight hpos⟩
  · rw [Option.getD_some]
    have hnearest : d.nearest = m := by simpa using List.find?_some hfound
    refine ⟨hnearest, ?_⟩
    have hmem := List.mem_of_find?_eq_some hfound
    simp only [List.mem_flatMap, List.mem_map] at hmem
    obtain ⟨more, -, candidate, -, rfl⟩ := hmem
    refine Decimal.normalize_tight fun hzero => ?_
    rw [Decimal.normalize_nearest, Decimal.nearest, hzero, nearestDecimal, if_pos rfl] at hnearest
    omega

theorem shortest_nearest : (shortest m).nearest = m :=
  (shortest_spec hpos hfinite).1

theorem shortest_tight : (shortest m).IsTight :=
  (shortest_spec hpos hfinite).2

end Shortest

end Binary64

/-! ## Positional form -/

/-- Digits, or digits, a point and more digits that do not end in zero. -/
inductive IsPositional : List Char → Prop where
  | whole {digits : List Char} : digits ≠ [] → Numeral.AreDigits digits → IsPositional digits
  | pointed {digits fraction : List Char} : digits ≠ [] → Numeral.AreDigits digits →
    fraction ≠ [] → Numeral.AreDigits fraction → fraction.getLast? ≠ some '0' →
    IsPositional (digits ++ '.' :: fraction)

/-- The last digit is zero only for a multiple of ten. -/
theorem getLast?_toDigits (n : Nat) : (Nat.toDigits 10 n).getLast? = some (n % 10).digitChar := by
  rw [Nat.toDigits_eq_if (by decide)]
  split
  · next hsmall => rw [Nat.mod_eq_of_lt hsmall, List.getLast?_singleton]
  · rw [List.getLast?_append, List.getLast?_singleton, Option.some_or]

/-- A positional form has digits, and at most a point besides. -/
theorem IsPositional.characters {text : List Char} (h : IsPositional text) :
    text ≠ [] ∧ ∀ c ∈ text, c.isDigit = true ∨ c = '.' := by
  cases h with
  | whole hne hdigits => exact ⟨hne, fun c hc => .inl (hdigits c hc)⟩
  | pointed _ hdigits _ hfraction _ =>
    refine ⟨by simp, fun c hc => ?_⟩
    rw [List.mem_append, List.mem_cons] at hc
    rcases hc with hc | rfl | hc
    · exact .inl (hdigits c hc)
    · exact .inr rfl
    · exact .inl (hfraction c hc)

namespace Decimal

/-- The digits of a decimal with as many zeros before and after them as its
    power of ten asks for. -/
def padded (d : Decimal) : List Char :=
  List.replicate ((-d.exponent).toNat + 1 - (Nat.toDigits 10 d.digits).length) '0'
    ++ Nat.toDigits 10 d.digits ++ List.replicate d.exponent.toNat '0'

theorem areDigits_padded (d : Decimal) : Numeral.AreDigits d.padded := by
  intro c hc
  simp only [padded, List.mem_append, List.mem_replicate] at hc
  rcases hc with (⟨-, rfl⟩ | hdigit) | ⟨-, rfl⟩
  · decide
  · exact Nat.isDigit_of_mem_toDigits (by decide) (by decide) hdigit
  · decide

theorem ofDigitChars_padded (d : Decimal) :
    Nat.ofDigitChars 10 d.padded 0 = d.digits * 10 ^ d.exponent.toNat := by
  rw [padded, Nat.ofDigitChars_append, Nat.ofDigitChars_append, Nat.ofDigitChars_replicate_zero,
    Nat.ofDigitChars_replicate_zero, Nat.mul_zero, Nat.ofDigitChars_ten_toDigits, Nat.mul_comm]

theorem lt_length_padded (d : Decimal) : (-d.exponent).toNat < d.padded.length := by
  simp only [padded, List.length_append, List.length_replicate]
  omega

/-! ### The parts -/

theorem positional_append (d : Decimal) : d.positional.1 ++ d.positional.2 = d.padded :=
  List.take_append_drop _ _

theorem positional_whole_ne (d : Decimal) : d.positional.1 ≠ [] := by
  have hlength : d.positional.1.length = d.padded.length - (-d.exponent).toNat :=
    List.length_take_of_le (Nat.sub_le _ _)
  have hlt := d.lt_length_padded
  intro hnil
  rw [hnil, List.length_nil] at hlength
  omega

theorem length_positional_fraction (d : Decimal) :
    d.positional.2.length = (-d.exponent).toNat := by
  have hlength : d.positional.2.length = d.padded.length - (d.padded.length - (-d.exponent).toNat) :=
    List.length_drop
  have hlt := d.lt_length_padded
  omega

/-- The digits after the point do not end in zero. -/
theorem getLast?_positional_fraction {d : Decimal} (htight : d.IsTight) :
    d.positional.2.getLast? ≠ some '0' := by
  rcases Nat.eq_zero_or_pos (-d.exponent).toNat with hplaces | hplaces
  · rw [List.eq_nil_of_length_eq_zero (d.length_positional_fraction.trans hplaces)]
    simp
  · have hexponent : d.exponent.toNat = 0 := by omega
    have hdrop : d.positional.2 = d.padded.drop (d.padded.length - (-d.exponent).toNat) := rfl
    have hlt := d.lt_length_padded
    have hlast : d.padded.getLast? = some (d.digits % 10).digitChar := by
      rw [padded, hexponent, List.replicate_zero, List.append_nil, List.getLast?_append,
        getLast?_toDigits, Option.some_or]
    rw [hdrop, List.getLast?_drop, if_neg (by omega), hlast, Ne, Option.some.injEq,
      Nat.digitChar_eq_zero]
    exact htight

theorem areDigits_positional (d : Decimal) :
    Numeral.AreDigits d.positional.1 ∧ Numeral.AreDigits d.positional.2 :=
  ⟨fun c hc => d.areDigits_padded c (List.mem_of_mem_take hc),
    fun c hc => d.areDigits_padded c (List.mem_of_mem_drop hc)⟩

/-- The digits of the positional form are read as the decimal itself. -/
theorem nearestDecimal_positional (d : Decimal) :
    Binary64.nearestDecimal (Nat.ofDigitChars 10 (d.positional.1 ++ d.positional.2) 0)
      (0 - d.positional.2.length) = d.nearest := by
  rw [positional_append, ofDigitChars_padded, length_positional_fraction,
    Binary64.nearestDecimal_mul_pow, nearest]
  congr 1
  omega

/-! ### The text -/

theorem render_of_fraction_nil {d : Decimal} (h : d.positional.2 = []) :
    d.render = d.positional.1 := by
  unfold render
  rcases hparts : d.positional with ⟨whole, fraction⟩
  rw [hparts] at h
  obtain rfl : fraction = [] := h
  rfl

theorem render_of_fraction_ne {d : Decimal} (h : d.positional.2 ≠ []) :
    d.render = d.positional.1 ++ '.' :: d.positional.2 := by
  unfold render
  rcases hparts : d.positional with ⟨whole, fraction⟩
  rw [hparts] at h
  cases fraction with
  | nil => exact absurd rfl h
  | cons _ _ => rfl

theorem isPositional_render {d : Decimal} (htight : d.IsTight) : IsPositional d.render := by
  obtain ⟨hwhole, hfraction⟩ := d.areDigits_positional
  by_cases hnil : d.positional.2 = []
  · rw [render_of_fraction_nil hnil]
    exact .whole d.positional_whole_ne hwhole
  · rw [render_of_fraction_ne hnil]
    exact .pointed d.positional_whole_ne hwhole hnil hfraction (getLast?_positional_fraction htight)

/-- The text of a decimal is a numeral without an exponent, of the two parts. -/
theorem isBody_render (d : Decimal) (negative : Bool) :
    Numeral.IsBody negative d.render (.decimal negative d.positional.1 d.positional.2 0) := by
  obtain ⟨hwhole, hfraction⟩ := d.areDigits_positional
  have hne : d.positional.1 ++ d.positional.2 ≠ [] := by
    simp [d.positional_whole_ne]
  by_cases hnil : d.positional.2 = []
  · rw [hnil] at hne
    have hbody : Numeral.IsBody negative (d.positional.1 ++ [] ++ [])
        (.decimal negative d.positional.1 [] 0) := .decimal hwhole .absent hne .absent
    rw [List.append_nil, List.append_nil] at hbody
    rwa [render_of_fraction_nil hnil, hnil]
  · have hbody : Numeral.IsBody negative (d.positional.1 ++ '.' :: d.positional.2 ++ [])
        (.decimal negative d.positional.1 d.positional.2 0) :=
      .decimal hwhole (.pointed hfraction) hne .absent
    rw [List.append_nil] at hbody
    rwa [render_of_fraction_ne hnil]

end Decimal

/-! ## Texts of numbers -/

namespace Binary64

/-- A number is its sign and its magnitude. -/
theorem ofMagnitude_magnitude (x : Binary64) : ofMagnitude x.isNegative x.magnitude = x := by
  have hbits := x.bits.toNat_lt
  have hparts : x.bits.toNat % signUnit % signUnit + (if signUnit ≤ x.bits.toNat then signUnit else 0)
      = x.bits.toNat := by
    unfold signUnit
    split <;> omega
  unfold ofMagnitude isNegative magnitude
  simp only [decide_eq_true_eq]
  rw [hparts, UInt64.ofNat_toNat]

/-- A minus, or nothing. -/
def minus (negative : Bool) : List Char :=
  if negative then ['-'] else []

theorem isSign_minus (negative : Bool) : Numeral.IsSign (minus negative) negative := by
  cases negative with
  | false => exact .absent
  | true => exact .minus

theorem signed_eq (x : Binary64) (text : List Char) : x.signed text = minus x.isNegative ++ text := by
  unfold signed minus
  split <;> rfl

variable {x : Binary64}

/-- The text of a finite number is a sign and a positional form, which is read as
    the number. -/
theorem render_of_finite (h : x.isFinite = true) :
    ∃ text, x.render = minus x.isNegative ++ text ∧ IsPositional text ∧
      ∃ numeral, Numeral.IsBody x.isNegative text numeral ∧ numeral.value = x := by
  have hfinite : x.magnitude < infinityMagnitude := by simpa [isFinite] using h
  have hNaN : x.isNaN = false := by simpa [isNaN] using hfinite.le
  rw [render, hNaN, if_neg (by decide), if_neg hfinite.ne, signed_eq]
  by_cases hzero : x.magnitude = 0
  · rw [if_pos hzero]
    have hbody : Numeral.IsBody x.isNegative (['0'] ++ [] ++ []) (.decimal x.isNegative ['0'] [] 0) :=
      .decimal (by decide) .absent (by decide) .absent
    refine ⟨['0'], rfl, .whole (by decide) (by decide), _, hbody, ?_⟩
    have hnearest : nearestDecimal (Nat.ofDigitChars 10 (['0'] ++ []) 0) (0 - ([] : List Char).length)
        = x.magnitude := by
      rw [hzero]
      rfl
    rw [Numeral.value, hnearest, ofMagnitude_magnitude]
  · rw [if_neg hzero]
    have hpos : 0 < x.magnitude := Nat.pos_of_ne_zero hzero
    refine ⟨_, rfl, Decimal.isPositional_render (shortest_tight hpos hfinite), _,
      Decimal.isBody_render _ _, ?_⟩
    rw [Numeral.value, Decimal.nearestDecimal_positional, shortest_nearest hpos hfinite,
      ofMagnitude_magnitude]

/-- The text of an infinite number is a sign and a word. -/
theorem render_of_infinite (hNaN : x.isNaN = false) (h : x.isFinite = false) :
    x.magnitude = infinityMagnitude ∧ x.render = minus x.isNegative ++ ['i', 'n', 'f'] := by
  have hmagnitude : x.magnitude = infinityMagnitude := by
    simp only [isFinite, isNaN, decide_eq_false_iff_not, not_lt] at h hNaN
    exact Nat.le_antisymm hNaN h
  refine ⟨hmagnitude, ?_⟩
  rw [render, hNaN, if_neg (by decide), if_pos hmagnitude, signed_eq]

/-- The text of a number reads back as this number, bit by bit. -/
theorem read?_render (h : x.isNaN = false) : read? x.render = some x := by
  cases hfinite : x.isFinite with
  | true =>
    obtain ⟨text, hrender, -, numeral, hbody, hvalue⟩ := render_of_finite hfinite
    rw [hrender, read?, Numeral.read?_eq_some_iff.2 (.signed (isSign_minus _) hbody), Option.map_some,
      hvalue]
  | false =>
    obtain ⟨hmagnitude, hrender⟩ := render_of_infinite h hfinite
    have hspells : Numeral.Spells x.render (.infinity x.isNegative) :=
      hrender ▸ .signed (isSign_minus _) (.infinity (.inl (by decide)))
    rw [read?, Numeral.read?_eq_some_iff.2 hspells, Option.map_some, Numeral.value, infinity,
      ← hmagnitude, ofMagnitude_magnitude]

end Binary64

end RenderCheck
