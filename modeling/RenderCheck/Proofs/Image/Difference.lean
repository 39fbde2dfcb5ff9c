import Mathlib.Algebra.Order.BigOperators.Group.List
import Mathlib.Algebra.Order.Field.Basic
import Mathlib.Data.List.Zip
import RenderCheck.Proofs.Image.Metric

/-! # The metric and the picture agree

    The mean squared error goes through samples and the picture of the
    differences through pixels. Samples and pixels are the same data, so with
    exact fractions the error is zero where the picture highlights nothing. A
    faded pixel is never taken for a highlighted one, as its channels are all at
    the light end.

    * **Pixels**: which are highlighted, and what the others look like.
    * **Samples** are alike if pixels are.
    * **Errors** of samples, and their mean
      (`differenceImage_shows_error`). -/

namespace RenderCheck

/-! ## Pixels -/

namespace Pixel

/-- Two pixels are unlike in some channel. -/
def Differs (p q : Pixel) : Prop :=
  p.red ≠ q.red ∨ p.green ≠ q.green ∨ p.blue ≠ q.blue ∨ p.alpha ≠ q.alpha

theorem differs_iff {p q : Pixel} : p.Differs q ↔ p ≠ q := by
  obtain ⟨red, green, blue, alpha⟩ := p
  obtain ⟨red', green', blue', alpha'⟩ := q
  simp only [Differs, ne_eq, mk.injEq, not_and_or]

/-- Nothing faded leaves the light end. -/
theorem le_fade (channel : UInt8) : 204 ≤ fade channel := by
  have hchannel := channel.toNat_lt
  rw [UInt8.le_iff_toNat_le, fade_eq, UInt8.toNat_add, UInt8.toNat_div]
  simp only [UInt8.reduceToNat]
  omega

theorem faded_light (p : Pixel) :
    p.faded.alpha = 255 ∧ 204 ≤ p.faded.red ∧ 204 ≤ p.faded.green ∧ 204 ≤ p.faded.blue := by
  simp only [faded, le_fade, and_self]

/-- The green of a highlighted pixel is darker than anything faded. -/
theorem faded_ne_highlight (p : Pixel) : p.faded ≠ highlight := by
  intro hsame
  have hlight : 204 ≤ p.faded.green := p.faded_light.2.2.1
  rw [hsame] at hlight
  exact absurd hlight (by decide)

end Pixel

namespace Image

variable {a b : Image}

theorem pixel_differenceImage (a b : Image) {x y : Nat} (hx : x < a.width) (hy : y < a.height) :
    (differenceImage a b).pixel x y
      = if a.pixel x y = b.pixel x y then (a.pixel x y).faded else highlight := by
  rw [differenceImage, pixel, pixel?_ofFn, if_pos ⟨hx, hy⟩, Option.getD_some]

/-- Highlighted is what differs. -/
theorem pixel_eq_highlight_iff (a b : Image) {x y : Nat} (hx : x < a.width) (hy : y < a.height) :
    (differenceImage a b).pixel x y = highlight ↔ a.pixel x y ≠ b.pixel x y := by
  rw [pixel_differenceImage a b hx hy]
  split
  · next hsame => simp [hsame, (b.pixel x y).faded_ne_highlight]
  · next hunlike => simp [hunlike]

/-! ## Samples -/

theorem flatMap_channels_inj {pixels pixels' : List Pixel} :
    pixels.flatMap Pixel.channels = pixels'.flatMap Pixel.channels ↔ pixels = pixels' := by
  refine ⟨fun h => ?_, fun h => by rw [h]⟩
  induction pixels generalizing pixels' with
  | nil =>
    cases pixels' with
    | nil => rfl
    | cons pixel' pixels' => simp [Pixel.channels] at h
  | cons pixel pixels ih =>
    cases pixels' with
    | nil => simp [Pixel.channels] at h
    | cons pixel' pixels' =>
      obtain ⟨red, green, blue, alpha⟩ := pixel
      obtain ⟨red', green', blue', alpha'⟩ := pixel'
      simp only [List.flatMap_cons, Pixel.channels, List.cons_append, List.nil_append,
        List.cons.injEq] at h
      obtain ⟨rfl, rfl, rfl, rfl, hrest⟩ := h
      rw [ih hrest]

/-- Samples are alike if the pixels are. -/
theorem samples_eq_iff (hsize : a.size = b.size) :
    a.samples = b.samples ↔ ∀ x y, x < a.width → y < a.height → a.pixel x y = b.pixel x y := by
  rw [samples, samples, flatMap_channels_inj, Array.toList_inj, pixels_eq_iff hsize]

theorem length_samples_eq (hsize : a.size = b.size) : a.samples.length = b.samples.length := by
  rw [length_samples, length_samples, show a.width = b.width from congrArg Prod.fst hsize,
    show a.height = b.height from congrArg Prod.snd hsize]

end Image

/-! ## Errors -/

theorem squaredError_comm (a b : UInt8) : squaredError ℚ a b = squaredError ℚ b a := by
  simp only [squaredError]
  ring

theorem squaredError_nonneg (a b : UInt8) : 0 ≤ squaredError ℚ a b :=
  mul_self_nonneg _

theorem squaredError_eq_zero_iff {a b : UInt8} : squaredError ℚ a b = 0 ↔ a = b := by
  have hwhite : ((255 : Nat) : ℚ) ≠ 0 := by norm_num
  simp only [squaredError]
  rw [mul_self_eq_zero, div_eq_zero_iff, or_iff_left hwhite, sub_eq_zero, Nat.cast_inj,
    UInt8.toNat_inj]

/-- Samples are no further apart than black and white. -/
theorem squaredError_le_one (a b : UInt8) : squaredError ℚ a b ≤ 1 := by
  have ha : (a.toNat : ℚ) ≤ 255 := by exact_mod_cast Nat.le_of_lt_succ a.toNat_lt
  have hb : (b.toNat : ℚ) ≤ 255 := by exact_mod_cast Nat.le_of_lt_succ b.toNat_lt
  have ha' : (0 : ℚ) ≤ a.toNat := Nat.cast_nonneg _
  have hb' : (0 : ℚ) ≤ b.toNat := Nat.cast_nonneg _
  have hdistance : |((a.toNat : ℚ) - b.toNat) / ((255 : Nat) : ℚ)| ≤ 1 := by
    rw [abs_div, Nat.abs_cast, div_le_one (by norm_num), abs_le]
    constructor <;> push_cast <;> linarith
  simp only [squaredError]
  rw [← abs_mul_self, abs_mul]
  exact mul_le_one₀ hdistance (abs_nonneg _) hdistance

/-- The mean is the sum by the number of samples, also where there are none. -/
theorem meanSquaredError_eq (a b : Image) :
    meanSquaredError ℚ a b
      = (List.zipWith (squaredError ℚ) a.samples b.samples).sum / a.samples.length := by
  simp only [meanSquaredError]
  split
  · next hnone => simp [hnone]
  · rw [List.sum_eq_foldl, Nat.cast_zero]

theorem meanSquaredError_nonneg (a b : Image) : 0 ≤ meanSquaredError ℚ a b := by
  have herrors := forall_errors squaredError_nonneg a.samples b.samples
  rw [meanSquaredError_eq]
  exact div_nonneg (List.sum_nonneg herrors) (Nat.cast_nonneg _)

section SameSize

variable {a b : Image} (hsize : a.size = b.size)

include hsize

theorem meanSquaredError_comm : meanSquaredError ℚ a b = meanSquaredError ℚ b a := by
  rw [meanSquaredError_eq, meanSquaredError_eq, Image.length_samples_eq hsize,
    List.zipWith_comm_of_comm squaredError_comm]

theorem meanSquaredError_le_one : meanSquaredError ℚ a b ≤ 1 := by
  have hsum := List.sum_le_card_nsmul _ _ (forall_errors squaredError_le_one a.samples b.samples)
  rw [List.length_zipWith, ← Image.length_samples_eq hsize, Nat.min_self, nsmul_one] at hsum
  rw [meanSquaredError_eq]
  exact div_le_one_of_le₀ hsum (Nat.cast_nonneg _)

/-- Without an error in the mean there is none in any sample. -/
theorem meanSquaredError_eq_zero_iff : meanSquaredError ℚ a b = 0 ↔ a.samples = b.samples := by
  have hlength := Image.length_samples_eq hsize
  rw [meanSquaredError_eq, div_eq_zero_iff]
  -- either all errors are zero, as none is negative, or there are no samples
  constructor
  · rintro (hsum | hcount)
    · have herrors := forall_errors squaredError_nonneg a.samples b.samples
      have hzero : ∀ error ∈ List.zipWith (squaredError ℚ) a.samples b.samples, error = 0 :=
        fun _ hmem => List.all_zero_of_le_zero_le_of_sum_eq_zero herrors hsum hmem
      rw [← List.forall_iff_forall_mem, List.forall_zipWith hlength] at hzero
      have hsame : List.Forall₂ (· = ·) a.samples b.samples :=
        hzero.imp fun _ _ => squaredError_eq_zero_iff.1
      rwa [List.forall₂_eq_eq_eq] at hsame
    · have hnone : a.samples.length = 0 := by exact_mod_cast hcount
      rw [List.length_eq_zero_iff.1 hnone, List.length_eq_zero_iff.1 (hlength.symm.trans hnone)]
  · intro hsame
    refine .inl (List.sum_eq_zero fun error hmem => ?_)
    rw [hsame, List.zipWith_self, List.mem_map] at hmem
    obtain ⟨s, -, rfl⟩ := hmem
    exact squaredError_eq_zero_iff.2 rfl

end SameSize

/-! ## Agreement -/

/-- Of two images of one size exactly the pixels that differ in a channel are
    highlighted; the others are opaque and light. The mean squared error, in
    exact fractions, is the same both ways, lies between zero and one, and is
    zero if nothing is highlighted and only then. -/
theorem differenceImage_shows_error {a b : Image} (hsize : a.size = b.size) :
    (differenceImage a b).size = a.size ∧
    (∀ x y, x < a.width → y < a.height →
      ((differenceImage a b).pixel x y = highlight ↔ (a.pixel x y).Differs (b.pixel x y)) ∧
      (¬(a.pixel x y).Differs (b.pixel x y) →
        ((differenceImage a b).pixel x y).alpha = 255 ∧
        204 ≤ ((differenceImage a b).pixel x y).red ∧
        204 ≤ ((differenceImage a b).pixel x y).green ∧
        204 ≤ ((differenceImage a b).pixel x y).blue)) ∧
    meanSquaredError ℚ a b = meanSquaredError ℚ b a ∧
    0 ≤ meanSquaredError ℚ a b ∧ meanSquaredError ℚ a b ≤ 1 ∧
    (meanSquaredError ℚ a b = 0 ↔
      ∀ x y, x < a.width → y < a.height → (differenceImage a b).pixel x y ≠ highlight) := by
  refine ⟨rfl, fun x y hx hy => ⟨?_, fun hsame => ?_⟩, meanSquaredError_comm hsize,
    meanSquaredError_nonneg a b, meanSquaredError_le_one hsize, ?_⟩
  · rw [Image.pixel_eq_highlight_iff a b hx hy, Pixel.differs_iff]
  · rw [Pixel.differs_iff, not_not] at hsame
    rw [Image.pixel_differenceImage a b hx hy, if_pos hsame]
    exact (a.pixel x y).faded_light
  · rw [meanSquaredError_eq_zero_iff hsize, Image.samples_eq_iff hsize]
    refine forall₄_congr fun x y hx hy => ?_
    rw [ne_eq, Image.pixel_eq_highlight_iff a b hx hy, not_not]

namespace Veiled

/-- Two pixels, of which the first is opaque or not and the second has the color
    that highlights. -/
def image (alpha : UInt8) : Image :=
  .ofFn 2 1 fun x _ => if x = 0 then ⟨255, 255, 255, alpha⟩ else highlight

/-- What differs in nothing but its alpha is highlighted and counts, and what has
    the color that highlights is faded where nothing differs. -/
theorem veil_counts :
    (image 255).size = (image 254).size ∧
    (differenceImage (image 255) (image 254)).pixel 0 0 = highlight ∧
    (differenceImage (image 255) (image 254)).pixel 1 0 ≠ highlight ∧
    0 < meanSquaredError ℚ (image 255) (image 254) ∧
    meanSquaredError ℚ (image 255) (image 254) ≤ 1 := by
  have hsize : (image 255).size = (image 254).size := rfl
  obtain ⟨-, hpixels, -, hnonneg, hle, hzero⟩ := differenceImage_shows_error hsize
  have hfirst : (differenceImage (image 255) (image 254)).pixel 0 0 = highlight := by
    refine ((hpixels 0 0 (by decide) (by decide)).1).2 (.inr (.inr (.inr ?_)))
    decide +kernel
  have hsecond : (differenceImage (image 255) (image 254)).pixel 1 0 ≠ highlight := by
    rw [ne_eq, (hpixels 1 0 (by decide) (by decide)).1, Pixel.differs_iff, not_not]
    decide +kernel
  refine ⟨hsize, hfirst, hsecond, lt_of_le_of_ne hnonneg fun hnone => ?_, hle⟩
  exact hzero.1 hnone.symm 0 0 (by decide) (by decide) hfirst

end Veiled

end RenderCheck
