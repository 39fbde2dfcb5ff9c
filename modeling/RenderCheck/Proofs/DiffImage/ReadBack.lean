import RenderCheck.Proofs.Image.Sizes
import RenderCheck.Proofs.Image.Strip
import RenderCheck.Proofs.Png.Beginning
import RenderCheck.Proofs.Png.RoundTrip
import RenderCheck.Proofs.Run.Effects

/-! # Diff images are read back

    What the built-in comparison draws is a PNG file of a strip: the reference,
    the difference and the generated image side by side. It is there afterwards,
    whatever was there before, and holds the strip pixel for pixel. A strip is
    three times as large as either image, though, and images that can be loaded
    may have one that is too large to be loaded. A pair that cannot be measured is
    not drawn either, for the same reason, and nothing is touched.

    * **Strips** of two images (`Image.IsStripOf`); the one that is drawn.
    * **Pairs** that are loaded (`Loads`), and why others are not.
    * **The file**: `native_renderDiff_read_back`.
    * **A strip too large**: `LargePair.strip_is_refused`. -/

namespace RenderCheck

variable {μ : Type}

/-! ## Strips -/

/-- Three parts of one size side by side: two images, and their difference
    between them. -/
structure Image.IsStripOf (strip a b : Image) : Prop where
  size : strip.size = (3 * a.width, a.height)
  left (x y : Nat) : x < a.width → y < a.height → strip.pixel x y = a.pixel x y
  middle (x y : Nat) : x < a.width → y < a.height →
    strip.pixel (a.width + x) y = (differenceImage a b).pixel x y
  right (x y : Nat) : x < a.width → y < a.height →
    strip.pixel (2 * a.width + x) y = b.pixel x y

namespace Backend

theorem isStripOf_stripOf {a b : Image} (hsize : a.size = b.size) :
    (stripOf a b).IsStripOf a b where
  size := Image.size_stripOf hsize
  left _ _ hx hy := (Image.pixel_stripOf hsize hx hy).1
  middle _ _ hx hy := (Image.pixel_stripOf hsize hx hy).2.1
  right _ _ hx hy := (Image.pixel_stripOf hsize hx hy).2.2

/-! ## Pairs that cannot be loaded -/

/-- Both images of a pair are read, and they have one size. -/
def Loads (files : FileTree) (reference generated : Path) : Prop :=
  ∃ a b, files.readImage reference = .ok a ∧ files.readImage generated = .ok b ∧ a.size = b.size

/-- A pair that is not loaded has an error that says why. -/
theorem exists_error_of_not_loads {files : FileTree} {reference generated : Path}
    (h : ¬ Loads files reference generated) :
    ∃ error, loadPair reference generated files = .error error := by
  cases hpair : loadPair reference generated files with
  | error error => exact ⟨error, rfl⟩
  | ok images =>
    obtain ⟨a, b⟩ := images
    exact absurd ⟨a, b, loadPair_eq_ok_iff.1 hpair⟩ h

/-! ## The file that is drawn -/

/-- What was drawn for a pair is in the file: the strip of its images. -/
theorem readFile_of_renderDiff {reference generated output : Path} {machine after : Machine μ}
    (hsound : machine.files.Sound) {a b : Image}
    (ha : machine.files.readImage reference = .ok a)
    (hb : machine.files.readImage generated = .ok b) (hsize : a.size = b.size)
    (hrun : (native.renderDiff reference generated output).run.run machine = (.ok (), after)) :
    after.files.readFile output = .ok (Png.encode (stripOf a b)) := by
  rcases native_draws.renderDiff reference generated output machine with
    ⟨error, _, hfailed, -⟩ | ⟨bytes, last, hdone, hpicture, hwrite⟩
  · rw [hrun] at hfailed
    cases hfailed
  · rw [hrun] at hdone
    cases hdone
    have hbytes : bytes = Png.encode (stripOf a b) := by
      rw [nativePicture, loadPair_eq_ok_iff.2 ⟨ha, hb, hsize⟩] at hpicture
      cases hpicture
      rfl
    subst hbytes
    obtain ⟨location, executable, hplace, -, -⟩ := (hsound.written hwrite).file
    exact FileTree.readFile_eq_ok_iff.2 ⟨location, executable, hplace⟩

/-- The file of a strip is read as the strip, unless that is larger than an image
    may be. -/
theorem decode_encode_stripOf {a b : Image} (hfits : a.Fits) (hsize : a.size = b.size)
    (hwide : 3 * a.width < 0x100000000) :
    Png.decode (Png.encode (stripOf a b))
      = if 12 * a.width * a.height ≤ Png.outputLimit then .ok (stripOf a b)
        else .error .tooLarge := by
  have hstrip := isStripOf_stripOf hsize
  have hwidth : (stripOf a b).width = 3 * a.width := congrArg Prod.fst hstrip.size
  have hheight : (stripOf a b).height = a.height := congrArg Prod.snd hstrip.size
  have hpositive := hfits.width.1
  have hstripWidth : 0 < (stripOf a b).width ∧ (stripOf a b).width < 0x100000000 := by omega
  rw [Png.decode, Png.decodeWithin_encode hstripWidth (hheight ▸ hfits.height), hwidth, hheight,
    ← Nat.mul_assoc, ← Nat.mul_assoc]

/-- What the built-in comparison draws is read back as the strip of the images
    that it loaded, if the strip is no larger than an image may be; else it is
    refused. Where two images of one size cannot be loaded nothing is drawn: it
    fails as measuring does, and leaves everything as it was. -/
theorem native_renderDiff_read_back (reference generated output : Path) (machine : Machine μ)
    (hsound : machine.files.Sound) :
    (∀ a b after, machine.files.readImage reference = .ok a →
      machine.files.readImage generated = .ok b → a.size = b.size → 3 * a.width < 0x100000000 →
      (native.renderDiff reference generated output).run.run machine = (.ok (), after) →
      ∃ bytes strip, after.files.readFile output = .ok bytes ∧ strip.IsStripOf a b ∧
        (12 * a.width * a.height ≤ Png.outputLimit → Png.decode bytes = .ok strip) ∧
        (Png.outputLimit < 12 * a.width * a.height → Png.decode bytes = .error .tooLarge)) ∧
    (¬ Loads machine.files reference generated →
      ∃ error, (native.measure reference generated).run.run machine = (.error error, machine) ∧
        (native.renderDiff reference generated output).run.run machine
          = (.error error, machine)) := by
  constructor
  · intro a b after ha hb hsize hwide hrun
    have hfits := machine.files.gives_readImage reference a ha
    have hread := decode_encode_stripOf hfits hsize hwide
    refine ⟨_, stripOf a b, readFile_of_renderDiff hsound ha hb hsize hrun,
      isStripOf_stripOf hsize, fun hroom => ?_, fun hlarge => ?_⟩
    · rw [hread, if_pos hroom]
    · rw [hread, if_neg (Nat.not_le_of_lt hlarge)]
  · intro hloads
    obtain ⟨error, herror⟩ := exists_error_of_not_loads hloads
    exact ⟨error, run_measure_of_error herror, run_renderDiff_of_error herror output⟩

/-! ## A pair over an old file, and half a pair -/

namespace Overwriting

/-- An image of one pixel. -/
def pixel (color : Pixel) : Image :=
  .ofFn 1 1 fun _ _ => color

def black : Image := pixel ⟨0, 0, 0, 255⟩

def white : Image := pixel ⟨255, 255, 255, 255⟩

/-- Two images, a file that is no image, and a text. -/
def machine : Machine Unit where
  files := {
    workingDir := []
    entries := [(["a.png"], .file (Png.encode black) false),
      (["b.png"], .file (Png.encode white) false), (["c.png"], .file .empty false),
      (["old.txt"], .file (.ofBytes [0x6F, 0x6C, 0x64]) false)] }
  memory := ()

/-- The strip takes the place of the text; what is no image is not drawn. -/
theorem strip_takes_place :
    machine.files.Sound ∧
    (∃ after bytes strip,
      (native.renderDiff ⟨"a.png"⟩ ⟨"b.png"⟩ ⟨"old.txt"⟩).run.run machine = (.ok (), after) ∧
      after.files.readFile ⟨"old.txt"⟩ = .ok bytes ∧ Png.decode bytes = .ok strip ∧
      strip.pixel 0 0 = ⟨0, 0, 0, 255⟩ ∧ strip.pixel 2 0 = ⟨255, 255, 255, 255⟩) ∧
    ∃ error,
      (native.measure ⟨"a.png"⟩ ⟨"c.png"⟩).run.run machine = (.error error, machine) ∧
      (native.renderDiff ⟨"a.png"⟩ ⟨"c.png"⟩ ⟨"old.txt"⟩).run.run machine
        = (.error error, machine) := by
  have hsound : machine.files.Sound := by decide +kernel
  have hblack : machine.files.readImage ⟨"a.png"⟩ = .ok black := by decide +kernel
  have hwhite : machine.files.readImage ⟨"b.png"⟩ = .ok white := by decide +kernel
  have hnone : machine.files.readImage ⟨"c.png"⟩ = .error (.ofPng .endOfData) := by decide +kernel
  refine ⟨hsound, ?_, ?_⟩
  · have hdone : ((native.renderDiff ⟨"a.png"⟩ ⟨"b.png"⟩ ⟨"old.txt"⟩).run.run machine).1
        = .ok () := by decide +kernel
    obtain ⟨after, hrun⟩ := exists_run hdone
    obtain ⟨bytes, strip, hfile, hstrip, hread, -⟩ :=
      (native_renderDiff_read_back ⟨"a.png"⟩ ⟨"b.png"⟩ ⟨"old.txt"⟩ machine hsound).1 black white after
        hblack hwhite rfl (by decide) hrun
    refine ⟨after, bytes, strip, hrun, hfile, hread (by decide +kernel), ?_, ?_⟩
    · exact hstrip.left 0 0 (by decide) (by decide)
    · exact hstrip.right 0 0 (by decide) (by decide)
  · refine (native_renderDiff_read_back ⟨"a.png"⟩ ⟨"c.png"⟩ ⟨"old.txt"⟩ machine hsound).2 ?_
    rintro ⟨a, b, -, hb, -⟩
    rw [hnone] at hb
    cases hb

end Overwriting

/-! ## A strip too large -/

/-- The image in a file whose name says that it is a PNG file. -/
theorem readImage_of_png {files : FileTree} {p : Path} {content : Content}
    (hcontent : files.readContent p = .ok content) (hformat : ImageFormat.ofPath p = .ok .png)
    {image : Image} (himage : Png.decode content.bytes = .ok image) :
    files.readImage p = .ok image := by
  have hfile : ∃ node, files.inspect true p = .ok node := by
    cases hnode : files.inspect true p with
    | error error =>
      rw [FileTree.readContent, hnode] at hcontent
      cases hcontent
    | ok node => exact ⟨node, rfl⟩
  obtain ⟨node, hnode⟩ := hfile
  rw [FileTree.readImage, hnode]
  dsimp only
  rw [hformat, hcontent]
  dsimp only
  rw [Png.decodeContent_eq, himage]

namespace LargePair

/-- A file, of whatever bytes. -/
def files (old : Content) : FileTree where
  workingDir := []
  entries := [(["a.png"], .file old false)]

@[simp] theorem readContent_files (old : Content) :
    (files old).readContent ⟨"a.png"⟩ = .ok old := rfl

/-- Another file beside it can be written. -/
@[simp] theorem writeFile_files (old new : Content) :
    (files old).writeFile ⟨"o.png"⟩ new
      = .ok { files old with entries := (files old).entries ++ [(["o.png"], .file new false)] } :=
  rfl

/-- Black pixels, no more than an image may have, and more than a third of
    these. -/
def image : Image :=
  .ofFn 6690 6688 fun _ _ => ⟨0, 0, 0, 255⟩

def machine : Machine Unit where
  files := files (Png.encode image)
  memory := ()

theorem readImage_machine : machine.files.readImage ⟨"a.png"⟩ = .ok image := by
  have himage : Png.decode (Png.encode image) = .ok image := by
    rw [Png.decode, Png.decodeWithin_encode (by decide) (by decide), if_pos (by decide)]
  exact readImage_of_png (readContent_files _) (by decide +kernel) himage

/-- An image is compared with itself. It is loaded, the strip is drawn, and what
    was drawn cannot be loaded. -/
theorem strip_is_refused :
    machine.files.Sound ∧ machine.files.readImage ⟨"a.png"⟩ = .ok image ∧
    3 * image.width < 0x100000000 ∧
    ∃ after bytes,
      (native.renderDiff ⟨"a.png"⟩ ⟨"a.png"⟩ ⟨"o.png"⟩).run.run machine = (.ok (), after) ∧
      after.files.readFile ⟨"o.png"⟩ = .ok bytes ∧
      Png.decode bytes = .error .tooLarge ∧ ¬ ∃ strip, Png.decode bytes = .ok strip := by
  have hsound : machine.files.Sound := by decide +kernel
  have hwide : 3 * image.width < 0x100000000 := by decide
  have hfits : image.Fits := ⟨by decide, by decide⟩
  have hdrawn : ∃ after,
      (native.renderDiff ⟨"a.png"⟩ ⟨"a.png"⟩ ⟨"o.png"⟩).run.run machine = (.ok (), after) := by
    obtain ⟨event, hdraw⟩ := run_renderDiff_of_ok
      (loadPair_eq_ok_iff.2 ⟨readImage_machine, readImage_machine, rfl⟩) ⟨"o.png"⟩
    exact ⟨_, hdraw.trans (Action.run_changeFiles_of_ok _ (writeFile_files _ _))⟩
  obtain ⟨after, hrun⟩ := hdrawn
  have hrefused : Png.decode (Png.encode (stripOf image image)) = .error .tooLarge := by
    rw [decode_encode_stripOf hfits rfl hwide, if_neg (by decide)]
  refine ⟨hsound, readImage_machine, hwide, after, _, hrun,
    readFile_of_renderDiff hsound readImage_machine readImage_machine rfl hrun, hrefused, ?_⟩
  rintro ⟨strip, hstrip⟩
  rw [hrefused] at hstrip
  cases hstrip

end LargePair

end Backend

end RenderCheck
