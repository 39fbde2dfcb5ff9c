import RenderCheck.Jpeg.Block

/-! # Blocks of samples

    A block of eight by eight samples is stored as weights of waves. The
    samples come out of the weights in whole numbers of 32 bits: first column
    by column, then row by row, with the factors of the waves scaled by 4096. -/

namespace RenderCheck.Jpeg

/-- Eight samples out of eight weights, scaled by 4096; `bias` is added to each
    before it is divided by a power of two. -/
def waves (bias : Int) (shift : Nat) (w : Nat → Int) : List Int :=
  let even := (w 2 + w 6) * 2217
  let a2 := even - w 6 * 7567
  let a3 := even + w 2 * 3135
  let a0 := (w 0 + w 4) * 4096
  let a1 := (w 0 - w 4) * 4096
  let x0 := a0 + a3 + bias
  let x1 := a1 + a2 + bias
  let x2 := a1 - a2 + bias
  let x3 := a0 - a3 + bias
  let odd := (w 7 + w 3 + (w 5 + w 1)) * 4816
  let p1 := odd - (w 7 + w 1) * 3685
  let p2 := odd - (w 5 + w 3) * 10497
  let p3 := (w 7 + w 3) * -8034
  let p4 := (w 5 + w 1) * -1597
  let b0 := w 7 * 1223 + p1 + p3
  let b1 := w 5 * 8410 + p2 + p4
  let b2 := w 3 * 12586 + p2 + p3
  let b3 := w 1 * 6149 + p1 + p4
  [x0 + b3, x1 + b2, x2 + b1, x3 + b0, x3 - b0, x2 - b1, x1 - b2, x0 - b3].map
    fun sum => wrapNumber sum / (Nat.pow 2 shift : Nat)

/-- A number brought into the range of a sample. -/
def clampSample (n : Int) : Nat :=
  min 255 n.toNat

/-- The 64 samples of a block, row by row. If all weights but the first are
    zero, the samples are all alike. -/
def samplesOf (block : Array Int) : Array Nat :=
  if (block.toList.drop 1).all (· = 0) then
    Array.replicate 64 (clampSample (wrapNumber (block.getD 0 0 + 1028) / 8))
  else
    let columns := ((List.range 8).map fun x =>
      (waves 512 10 fun k => block.getD (8 * k + x) 0).toArray).toArray
    ((List.range 8).flatMap fun y =>
      (waves (66048 + 128 * 131072) 17 fun k => (columns.getD k #[]).getD y 0).map
        clampSample).toArray

end RenderCheck.Jpeg
