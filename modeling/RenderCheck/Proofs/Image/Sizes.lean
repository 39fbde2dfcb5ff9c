import RenderCheck.Image.File
import RenderCheck.Proofs.Png.Chunks

/-! # Sizes of images that were read

    A file tells the size of its image in numbers of two or four bytes. No reader
    takes a width or a height that is zero, and none changes them later, so that
    every image that was read has a size that a PNG file can tell.

    * **Readers** fail or give something with a property (`Gives`); what is read
      in steps has it if the last step gives it.
    * **PNG**: the header is read first and kept by all chunks.
    * **TIFF**: the size is read first and becomes part of the description.
    * **JPEG**: segments may come in any order; a header with components has a
      size (`Header.Sized`), and a scan needs components.
    * **Files**: `FileTree.gives_readImage`. -/

namespace RenderCheck

/-! ## Readers -/

/-- Whatever a reader gives, it has the property. -/
def Gives {ε α : Type} (property : α → Prop) (result : Except ε α) : Prop :=
  ∀ a, result = .ok a → property a

section Rules

variable {ε α β : Type} {property : α → Prop}

theorem gives_ok {a : α} (h : property a) : Gives property (.ok a : Except ε α) := by
  rintro _ ⟨⟩
  exact h

theorem gives_error {error : ε} : Gives property (.error error) :=
  fun _ h => nomatch h

theorem Gives.imp {property' : α → Prop} {result : Except ε α} (h : Gives property result)
    (himp : ∀ a, property a → property' a) : Gives property' result :=
  fun a hresult => himp a (h a hresult)

/-- What comes last decides what is given. -/
theorem Gives.bind {given : β → Prop} {result : Except ε β} (h : Gives given result)
    {next : β → Except ε α} (hnext : ∀ b, given b → Gives property (next b)) :
    Gives property (result >>= next) := by
  intro a hlast
  cases result with
  | error error => cases hlast
  | ok b => exact hnext b (h b rfl) a hlast

theorem gives_bind {result : Except ε β} {next : β → Except ε α}
    (hnext : ∀ b, Gives property (next b)) : Gives property (result >>= next) := by
  have hany : Gives (fun _ => True) result := fun _ _ => trivial
  exact hany.bind fun b _ => hnext b

/-- A reader that goes on unless a condition holds. -/
theorem gives_unless {condition : Prop} [Decidable condition] {error : ε}
    {next : Unit → Except ε α} {result : Except ε α} (h : ¬ condition → Gives property result) :
    Gives property (if condition then (throw error : Except ε Unit) >>= next else result) := by
  split
  · exact gives_error
  · next hnot => exact h hnot

end Rules

namespace Image

/-- A width and a height that a PNG file can tell. -/
structure Fits (image : Image) : Prop where
  width : 0 < image.width ∧ image.width < 0x100000000
  height : 0 < image.height ∧ image.height < 0x100000000

end Image

/-! ## PNG -/

namespace Png

namespace Contents

theorem gives_addPalette (contents : Contents) (data : List UInt8) :
    Gives (fun after => after.header = contents.header) (contents.addPalette data) := by
  unfold addPalette
  split
  · exact gives_error
  · exact gives_ok rfl

theorem header_addTransparency (contents : Contents) (data : List UInt8) :
    (contents.addTransparency data).header = contents.header := by
  unfold addTransparency
  split <;> rfl

theorem gives_addColors (contents : Contents) (data : List UInt8) :
    Gives (fun after => after.header = contents.header) (contents.addColors data) := by
  unfold addColors
  split
  · split
    · exact gives_ok rfl
    split
    · exact gives_error
    · exact gives_ok rfl
  · exact gives_ok rfl

theorem gives_addFrame (contents : Contents) (data : List UInt8) :
    Gives (fun after => after.header = contents.header) (contents.addFrame data) := by
  unfold addFrame
  dsimp only
  split
  · exact gives_error
  · exact gives_ok rfl

/-- A chunk leaves the header as it is. -/
theorem gives_add (contents : Contents) (chunk : Chunk) :
    Gives (fun after => after.header = contents.header) (contents.add chunk) := by
  unfold add
  split
  · exact gives_error
  split
  · exact gives_error
  split
  · exact gives_addPalette contents chunk.data
  split
  · exact gives_ok (header_addTransparency contents chunk.data)
  split
  · exact gives_addColors contents chunk.data
  split
  · exact gives_addFrame contents chunk.data
  · exact gives_ok rfl

end Contents

theorem gives_readContents (fuel : Nat) (contents : Contents) (bytes : List UInt8) :
    Gives (fun after => after.1.header = contents.header) (readContents fuel contents bytes) := by
  induction fuel generalizing contents bytes with
  | zero => exact gives_error
  | succ fuel ih =>
    unfold readContents
    split
    · exact gives_error
    split
    · exact gives_ok rfl
    split
    · exact gives_error
    split
    · exact gives_error
    split
    · exact gives_error
    split
    · refine (contents.gives_add _).bind fun between hsame => ?_
      exact hsame ▸ ih between _
    split
    · exact gives_error
    · exact ih contents _

theorem gives_readHead (bytes : List UInt8) :
    Gives (fun head => head.1.header.Fits) (readHead bytes) := by
  have hheader (data : List UInt8) : Gives Header.Fits (Header.decode data) :=
    fun _ => Header.fits_of_decode
  refine gives_unless fun _ => gives_unless fun _ => ?_
  split
  · refine gives_unless fun _ => ?_
    split
    · refine gives_unless fun _ => (hheader _).bind fun header hfits => ?_
      exact (gives_readContents _ _ _).imp fun _ hsame => hsame ▸ hfits
    · exact gives_error
  · exact gives_error

theorem gives_decode (bytes : List UInt8) : Gives Image.Fits (decode bytes) := by
  refine (gives_readHead bytes).bind fun head hfits => ?_
  refine gives_unless fun _ => gives_unless fun _ => ?_
  refine gives_bind fun _ => gives_bind fun _ => gives_bind fun _ => ?_
  exact gives_ok ⟨hfits.width, hfits.height⟩

theorem gives_decodeContent (content : Content) : Gives Image.Fits (decodeContent content) := by
  unfold decodeContent
  split
  · exact gives_error
  · exact gives_decode _

end Png

/-! ## TIFF -/

namespace Tiff

/-- The number of a tag is below its bound. -/
theorem Directory.gives_number (d : Directory) (tag bound : Nat) (name : String) :
    Gives (· < bound) (d.number tag bound name) := by
  have hnumber? : Gives (fun number? => ∀ number, number? = some number → number < bound)
      (d.number? tag bound) := by
    refine gives_bind fun numbers => ?_
    split
    · exact gives_ok fun _ h => nomatch h
    · split
      · next hlt =>
        refine gives_ok ?_
        rintro _ ⟨⟩
        exact hlt
      · exact gives_error
    · exact gives_error
  refine hnumber?.bind fun number? hbound => ?_
  split
  · exact gives_ok (hbound _ rfl)
  · exact gives_error

/-- The size is read first; the rest does not change it. -/
theorem Description.gives_read (d : Directory) :
    Gives (fun x : Description => (0 < x.width ∧ x.width < 0x100000000) ∧
      0 < x.height ∧ x.height < 0x100000000) (read d) := by
  refine (d.gives_number _ _ _).bind fun width hwidth => ?_
  refine (d.gives_number _ _ _).bind fun height hheight => ?_
  refine gives_unless fun hsize => gives_bind fun _ => ?_
  obtain ⟨hwide, hhigh⟩ := not_or.1 hsize
  split
  · refine gives_bind fun _ => gives_bind fun _ => gives_bind fun _ => ?_
    refine gives_unless fun _ => ?_
    refine gives_bind fun _ => gives_bind fun _ => gives_bind fun _ => gives_bind fun _ => ?_
    dsimp only
    split
    · refine gives_bind fun _ => gives_unless fun _ => gives_bind fun _ => ?_
      refine gives_unless fun _ => gives_bind fun _ => gives_ok ?_
      exact ⟨⟨Nat.pos_of_ne_zero hwide, hwidth⟩, Nat.pos_of_ne_zero hhigh, hheight⟩
    · exact gives_error
  · exact gives_error

theorem gives_decode (bytes : List UInt8) : Gives Image.Fits (decode bytes) := by
  refine gives_bind fun directory => ?_
  refine (Description.gives_read directory).bind fun x hsize => ?_
  refine gives_bind fun _ => gives_bind fun _ => gives_unless fun _ => ?_
  exact gives_ok ⟨hsize.1, hsize.2⟩

end Tiff

/-! ## JPEG -/

namespace Jpeg

theorem wordOf_lt (high low : UInt8) : wordOf high low < 0x10000 := by
  have hhigh := high.toNat_lt
  have hlow := low.toNat_lt
  unfold wordOf
  omega

namespace Header

/-- The size has been read. -/
def Measured (h : Header) : Prop :=
  (0 < h.width ∧ h.width < 0x10000) ∧ 0 < h.height ∧ h.height < 0x10000

/-- Components come with a size. -/
def Sized (h : Header) : Prop :=
  h.components ≠ [] → h.Measured

theorem Measured.sized {h : Header} (hmeasured : h.Measured) : h.Sized :=
  fun _ => hmeasured

theorem gives_readFactors {h : Header} (hsized : h.Sized) (fuel : Nat) (data : List UInt8) :
    Gives Sized (h.readFactors fuel data) := by
  induction fuel generalizing h data with
  | zero => exact gives_ok hsized
  | succ fuel ih =>
    cases data with
    | nil => exact gives_ok hsized
    | cons head data => exact gives_unless fun _ => gives_unless fun _ => ih (by exact hsized) _

theorem gives_readCodes {h : Header} (hsized : h.Sized) (fuel : Nat) (data : List UInt8) :
    Gives Sized (h.readCodes fuel data) := by
  induction fuel generalizing h data with
  | zero => exact gives_ok hsized
  | succ fuel ih =>
    cases data with
    | nil => exact gives_ok hsized
    | cons head data =>
      refine gives_unless fun _ => gives_unless fun _ => gives_unless fun _ => ?_
      refine gives_unless fun _ => ih ?_ _
      split
      · exact hsized
      · exact hsized

theorem gives_readFrame (h : Header) (progressive : Bool) (data : List UInt8) :
    Gives Sized (h.readFrame progressive data) := by
  refine gives_unless fun _ => ?_
  split
  · refine gives_unless fun _ => gives_unless fun hsize => gives_unless fun _ => ?_
    obtain ⟨hwide, hhigh⟩ := not_or.1 hsize
    refine gives_bind fun components => gives_ok fun _ => ?_
    exact ⟨⟨Nat.pos_of_ne_zero hwide, wordOf_lt _ _⟩, Nat.pos_of_ne_zero hhigh, wordOf_lt _ _⟩
  · exact gives_error

/-- Naming the parts of a scan changes codes of components and nothing else of
    the image. -/
theorem gives_readParts {h : Header} (hmeasured : h.Measured) (seen : List UInt8) :
    (data : List UInt8) → Gives Measured (h.readParts seen data)
  | [] => gives_ok hmeasured
  | [_] => gives_ok hmeasured
  | id :: codes :: rest => by
    refine gives_unless fun _ => ?_
    split
    · exact gives_error
    · exact gives_readParts (by exact hmeasured) _ rest

/-- A scan needs components. -/
theorem gives_readScan {h : Header} (hsized : h.Sized) (data : List UInt8) :
    Gives Measured (h.readScan data) := by
  unfold readScan
  split
  · exact gives_error
  refine gives_unless fun _ => gives_unless fun hcomponents => ?_
  split
  · have hmeasured : Measured { h with parts := [] } := hsized (by simpa using hcomponents)
    refine (gives_readParts hmeasured _ _).bind fun after hafter => ?_
    exact gives_unless fun _ => gives_ok hafter
  · exact gives_error

theorem gives_readVendor {h : Header} (hsized : h.Sized) (data : List UInt8) :
    Gives Sized (h.readVendor data) := by
  unfold readVendor
  split
  · exact gives_error
  split
  · split
    · exact gives_ok hsized
    · exact gives_ok hsized
    · exact gives_ok hsized
    · exact gives_error
  · exact gives_ok hsized

/-- After a segment components come with a size, and after the head of a scan
    there is one. -/
def SizedAfter (marker : Marker) (h : Header) : Prop :=
  h.Sized ∧ (marker = .startOfScan → h.Measured)

theorem gives_readData {h : Header} (hsized : h.Sized) (marker : Marker) (data : List UInt8) :
    Gives (SizedAfter marker) (h.readData marker data) := by
  by_cases hscan : marker = .startOfScan
  · subst hscan
    exact (gives_readScan hsized data).imp fun _ hafter => ⟨hafter.sized, fun _ => hafter⟩
  have hother {result : Except Fault Header} (hresult : Gives Sized result) :
      Gives (SizedAfter marker) result :=
    hresult.imp fun _ hafter => ⟨hafter, fun h => absurd h hscan⟩
  refine hother ?_
  unfold readData
  split
  · exact gives_readFactors hsized _ _
  · exact gives_readCodes hsized _ _
  · exact gives_readFrame h _ _
  · exact gives_readFrame h _ _
  · exact gives_readFrame h _ _
  · exact (gives_readScan hsized data).imp fun _ => Measured.sized
  · split
    · exact gives_ok hsized
    · exact gives_error
  · exact gives_readVendor hsized data
  · split
    · exact gives_error
    · exact gives_ok hsized

theorem gives_readSegment {h : Header} (hsized : h.Sized) (marker : Marker) (bytes : List UInt8) :
    Gives (fun read => SizedAfter marker read.1) (h.readSegment marker bytes) := by
  unfold readSegment
  dsimp only
  split
  · exact gives_error
  refine gives_unless fun _ => gives_bind fun _ => gives_unless fun _ => ?_
  split
  · next hname =>
    refine gives_bind fun _ => gives_ok ⟨hsized, fun hscan => ?_⟩
    rw [hscan] at hname
    exact absurd hname.1 (by decide)
  split
  · refine gives_bind fun _ => (gives_readData hsized marker _).bind fun after hafter => ?_
    exact gives_ok hafter
  · next hread =>
    refine gives_ok ⟨hsized, fun hscan => ?_⟩
    rw [hscan] at hread
    exact absurd (by decide) hread

theorem gives_readSegments (fuel : Nat) {h : Header} (hsized : h.Sized) (bytes : List UInt8) :
    Gives (fun read => Measured read.1) (readSegments fuel h bytes) := by
  induction fuel generalizing h bytes with
  | zero => exact gives_error
  | succ fuel ih =>
    unfold readSegments
    split
    · exact gives_error
    · refine (gives_readSegment hsized _ _).bind fun read hafter => ?_
      dsimp only
      split
      · next hscan => exact gives_ok (hafter.2 hscan)
      · exact ih hafter.1 _

/-- A header that was read has a size. -/
theorem gives_read (bytes : List UInt8) : Gives (fun read => Measured read.1) (read bytes) := by
  unfold read
  split
  · have hnone : Sized {} := fun hcomponents => absurd rfl hcomponents
    refine gives_unless fun _ => ?_
    refine (gives_readSegments _ hnone _).bind fun read hmeasured => gives_ok ?_
    unfold named
    split
    · exact hmeasured
    · exact hmeasured
  · exact gives_error

/-- What is done with a header before the pixels are read keeps the size. -/
theorem Measured.prepared {h : Header} (hmeasured : h.Measured) :
    h.fitted.completed.leveled.Measured := by
  have hfitted : h.fitted.Measured := hmeasured
  have hcompleted : h.fitted.completed.Measured := by
    unfold completed
    split
    · exact hfitted
    · exact hfitted
  unfold leveled
  split
  · exact hcompleted
  · exact hcompleted

end Header

theorem gives_decodeSequential (aim : Aim) (header : Header) (bytes : List UInt8) :
    Gives (fun r => r.width = header.width ∧ r.height = header.height)
      (decodeSequential aim header bytes) := by
  refine gives_bind fun channels => gives_unless fun _ => ?_
  dsimp only
  split
  · exact gives_bind fun _ => gives_ok ⟨rfl, rfl⟩
  · refine gives_bind fun state? => ?_
    split
    · exact gives_ok ⟨rfl, rfl⟩
    · exact gives_bind fun _ => gives_ok ⟨rfl, rfl⟩

theorem gives_decodeProgressive (aim : Aim) (header : Header) (bytes : List UInt8) :
    Gives (fun r => r.width = header.width ∧ r.height = header.height)
      (decodeProgressive aim header bytes) := by
  refine gives_bind fun channels => gives_unless fun _ => ?_
  dsimp only
  split
  · exact gives_bind fun _ => gives_bind fun _ => gives_ok ⟨rfl, rfl⟩
  split
  · exact gives_error
  · exact gives_bind fun _ => gives_bind fun _ => gives_ok ⟨rfl, rfl⟩

theorem gives_decode (bytes : List UInt8) : Gives Image.Fits (decode bytes) := by
  have hraster : Gives (fun r => r.image.Fits) (raster .light bytes) := by
    refine (Header.gives_read bytes).bind fun read hread => ?_
    have hmeasured := hread.prepared
    have hfits (r : Raster) (hsame : r.width = read.1.fitted.completed.leveled.width ∧
        r.height = read.1.fitted.completed.leveled.height) : r.image.Fits := by
      obtain ⟨⟨hwide, hwide'⟩, hhigh, hhigh'⟩ := hmeasured
      rw [← hsame.1] at hwide hwide'
      rw [← hsame.2] at hhigh hhigh'
      exact ⟨⟨hwide, Nat.lt_trans hwide' (by decide)⟩, hhigh, Nat.lt_trans hhigh' (by decide)⟩
    dsimp only
    split
    · exact (gives_decodeProgressive _ _ _).imp hfits
    · exact (gives_decodeSequential _ _ _).imp hfits
  intro image himage
  unfold decode at himage
  cases hresult : raster .light bytes with
  | error fault =>
    rw [hresult] at himage
    cases himage
  | ok r =>
    rw [hresult] at himage
    cases himage
    exact hraster r hresult

end Jpeg

/-! ## Files -/

/-- The image in a file has a size that a PNG file can tell. -/
theorem FileTree.gives_readImage (files : FileTree) (p : Path) :
    Gives Image.Fits (files.readImage p) := by
  unfold readImage
  split
  · exact gives_error
  split
  · exact gives_error
  · exact gives_error
  split
  · exact gives_error
  split
  · split
    · next hdecode => exact gives_ok (Png.gives_decodeContent _ _ hdecode)
    · exact gives_error
  · split
    · next hdecode => exact gives_ok (Tiff.gives_decode _ _ hdecode)
    · exact gives_error
  · split
    · next hdecode => exact gives_ok (Jpeg.gives_decode _ _ hdecode)
    · exact gives_error
  · exact gives_error

end RenderCheck
