import RenderCheck.Error
import RenderCheck.FileTree.Operations
import RenderCheck.Jpeg.Reader
import RenderCheck.Png.Reader
import RenderCheck.Png.Writer
import RenderCheck.Tiff.Reader

/-! # Image files

    An image file is opened first; its format is told by the extension of its
    name; then it is read. Of the formats that are known, some cannot be read
    at all. -/

namespace RenderCheck

/-- What is known of an image format. -/
inductive ImageFormat where
  | png
  | jpeg
  | tiff
  /-- A format that cannot be read. -/
  | unsupported (name : String)
  deriving DecidableEq

namespace ImageFormat

/-- The formats by extension. -/
def table : List (String × ImageFormat) :=
  [("png", .png), ("apng", .png),
   ("jpg", .jpeg), ("jpeg", .jpeg), ("jfif", .jpeg),
   ("tif", .tiff), ("tiff", .tiff),
   ("gif", .unsupported "Gif"), ("webp", .unsupported "WebP"), ("tga", .unsupported "Tga"),
   ("dds", .unsupported "Dds"), ("bmp", .unsupported "Bmp"), ("ico", .unsupported "Ico"),
   ("hdr", .unsupported "Hdr"), ("exr", .unsupported "OpenExr"), ("pbm", .unsupported "Pnm"),
   ("pam", .unsupported "Pnm"), ("ppm", .unsupported "Pnm"), ("pgm", .unsupported "Pnm"),
   ("pnm", .unsupported "Pnm"), ("ff", .unsupported "Farbfeld"), ("avif", .unsupported "Avif"),
   ("qoi", .unsupported "Qoi")]

/-- The format that the name of a file tells, in any case. -/
def ofPath (p : Path) : Except ImageFault ImageFormat :=
  match p.extension? with
  | none => .error .unknownFormat
  | some extension =>
    match table.lookup (String.ofList (extension.toList.map Char.toLower)) with
    | some format => .ok format
    | none => .error (.unknownExtension extension)

end ImageFormat

/-- What is wrong with the contents of a PNG file. -/
def ImageFault.ofPng : Png.Fault → ImageFault
  | .endOfData => .endOfData "unexpected end of file"
  | fault => .malformed "Png" fault.text

/-- What is wrong with the contents of a JPEG file. -/
def ImageFault.ofJpeg : Jpeg.Fault → ImageFault
  | .unsupported scheme => .unsupportedFeature "Jpeg" scheme
  | fault => .malformed "Jpeg" fault.text

/-- What is wrong with the contents of a TIFF file. -/
def ImageFault.ofTiff : Tiff.Fault → ImageFault
  | .endOfData => .endOfData Tiff.Fault.endOfData.text
  | .tooLarge => .endOfData Tiff.Fault.tooLarge.text
  | .compression => .endOfData Tiff.Fault.compression.text
  | .unsupported feature => .unsupportedFeature "Tiff" feature
  | .unsupportedColor bits => .unsupportedColor "Tiff" bits
  | fault => .malformed "Tiff" fault.text

/-- The image in a file. -/
def FileTree.readImage (t : FileTree) (p : Path) : Except ImageFault Image :=
  match t.inspect true p with
  | .error error => .error (.io error)
  | .ok _ =>
    match ImageFormat.ofPath p with
    | .error fault => .error fault
    | .ok (.unsupported name) => .error (.unsupportedFormat name)
    | .ok format =>
      match t.readContent p with
      | .error error => .error (.io error)
      | .ok content =>
        match format with
        | .png =>
          match Png.decodeContent content with
          | .ok image => .ok image
          | .error fault => .error (.ofPng fault)
        | .tiff =>
          match Tiff.decode content.bytes with
          | .ok image => .ok image
          | .error fault => .error (.ofTiff fault)
        | .jpeg =>
          match Jpeg.decode content.bytes with
          | .ok image => .ok image
          | .error fault => .error (.ofJpeg fault)
        | .unsupported name => .error (.unsupportedFormat name)

end RenderCheck
