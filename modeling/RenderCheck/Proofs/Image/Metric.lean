import RenderCheck.Image.Difference
import RenderCheck.Proofs.Binary64.Bounds
import RenderCheck.Proofs.Image.Sizes

/-! # Metrics of images are numbers

    The squared error of two samples is at most one, and their sum stays finite
    however many there are. An image that was read has no more samples than can
    be counted, and the error of an image without samples is zero. So the metric
    of two images that were read is a number, and can be ordered against every
    threshold. -/

namespace RenderCheck

open Binary64

/-! ## Samples -/

namespace Binary64

/-- A whole number within a bound. -/
theorem isUpTo_natCast {n bound : Nat} (hbound : bound ≤ infinityMagnitude)
    (h : n * stepsPerUnit ≤ steps bound) : IsUpTo bound (n : Binary64) := by
  refine ⟨isNegative_ofMagnitude _ _, ?_⟩
  show (ofSteps false (n * stepsPerUnit) 1).magnitude ≤ bound
  rw [magnitude_ofSteps]
  exact nearestSteps_le Nat.one_pos hbound (by rwa [Nat.mul_one])

/-- The number of something that is there is one at least. -/
theorem size_natCast_pos {n : Nat} (h : 0 < n) : 0 < (n : Binary64).size := by
  have hone : one ≤ (n : Binary64).magnitude := by
    show one ≤ (ofSteps false (n * stepsPerUnit) 1).magnitude
    rw [magnitude_ofSteps]
    refine le_nearestSteps Nat.one_pos one_lt_infinity.le ?_
    rw [steps_one, Nat.mul_one]
    exact Nat.le_mul_of_pos_left _ h
  have hsteps := strictMono_steps.monotone hone
  rw [steps_one] at hsteps
  exact stepsPerUnit_pos.trans_le hsteps

end Binary64

/-- The squared distance of two samples is at most one. -/
theorem isUpTo_squaredError (a b : UInt8) : IsUpTo one (squaredError Binary64 a b) := by
  have hsample (c : UInt8) :
      IsUpTo ((255 : Nat) : Binary64).magnitude (c.toNat : Binary64) := by
    refine isUpTo_natCast white_lt_infinity.le ?_
    rw [steps_white]
    exact Nat.mul_le_mul_right _ (Nat.le_of_lt_succ c.toNat_lt)
  have hdistance := (hsample a).magnitude_sub_le (hsample b) white_lt_infinity
  have hpart := magnitude_div_le_one hdistance white_lt_infinity (size_natCast_pos (Nat.succ_pos 254))
  exact IsUpTo.mul_self hpart

/-- What every squared distance has, the errors of two images have. -/
theorem forall_errors {α : Type} [Sub α] [Mul α] [Div α] [NatCast α] {property : α → Prop}
    (h : ∀ a b, property (squaredError α a b)) (samples samples' : List UInt8) :
    ∀ error ∈ List.zipWith (squaredError α) samples samples', property error := by
  intro error hmem
  rw [← List.map_uncurry_zip_eq_zipWith] at hmem
  obtain ⟨⟨a, b⟩, -, rfl⟩ := List.mem_map.1 hmem
  exact h a b

/-- Errors of samples are added up without end. -/
theorem isUpTo_foldl {errors : List Binary64} (herrors : ∀ error ∈ errors, IsUpTo one error)
    {start : Binary64} (hstart : IsUpTo top start) : IsUpTo top (errors.foldl (· + ·) start) := by
  induction errors generalizing start with
  | nil => exact hstart
  | cons error errors ih =>
    obtain ⟨herror, hothers⟩ := List.forall_mem_cons.1 herrors
    exact ih hothers (hstart.add_one herror)

/-! ## Images -/

namespace Image

theorem length_samples (image : Image) : image.samples.length = 4 * (image.width * image.height) := by
  have hfour (p : Pixel) : p.channels.length = 4 := rfl
  rw [samples, List.length_flatMap]
  simp only [hfour, List.map_const', List.sum_replicate_nat, Array.length_toList,
    image.size_pixels]
  exact Nat.mul_comm _ _

/-- The samples of an image can be counted. -/
theorem Fits.length_samples_le {image : Image} (h : image.Fits) : image.samples.length ≤ 2 ^ 66 := by
  have hpixels : image.width * image.height ≤ 0x100000000 * 0x100000000 :=
    Nat.mul_le_mul h.width.2.le h.height.2.le
  rw [length_samples]
  omega

end Image

/-- The metric of an image whose samples can be counted is a number, whatever it
    is compared with. -/
theorem Metric.isNaN_ofImages {reference : Image} (h : reference.Fits) (generated : Image) :
    (Metric.ofImages reference generated).value.isNaN = false := by
  show (meanSquaredError Binary64 reference generated).isNaN = false
  have hzero : IsUpTo top ((0 : Nat) : Binary64) :=
    isUpTo_natCast top_lt_infinity.le (by rw [Nat.zero_mul]; exact Nat.zero_le _)
  unfold meanSquaredError
  dsimp only
  split
  · rw [isNaN, decide_eq_false_iff_not]
    exact not_lt.2 (hzero.magnitude_le.trans top_lt_infinity.le)
  · next hcount =>
    have herrors := forall_errors isUpTo_squaredError reference.samples generated.samples
    have hsum := isUpTo_foldl herrors hzero
    have hcounted : IsUpTo (1089 * exponentUnit) (reference.samples.length : Binary64) := by
      refine isUpTo_natCast countLimit_lt_infinity.le ?_
      rw [steps_countLimit]
      exact Nat.mul_le_mul_right _ h.length_samples_le
    exact isNaN_div (hsum.magnitude_le.trans_lt top_lt_infinity)
      (hcounted.magnitude_le.trans_lt countLimit_lt_infinity)
      (size_natCast_pos (Nat.pos_of_ne_zero hcount))

end RenderCheck
