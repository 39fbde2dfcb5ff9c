import RenderCheck.Path.Basic
import RenderCheck.Text.Utf8

/-! # Texts of bytes

    Scripts know nothing of characters: they cut, compare and count bytes. In
    the texts of a script each character stands for the byte of its number. -/

namespace RenderCheck.Script

/-- The text of some bytes. -/
def ofBytes (bytes : List UInt8) : String :=
  String.ofList (bytes.map fun byte => Char.ofNat byte.toNat)

/-- The bytes of a text. -/
def toBytes (text : String) : List UInt8 :=
  text.toList.map fun c => c.toNat.toUInt8

/-- The text of the bytes that write a text of characters. -/
def ofCharacters (text : String) : String :=
  ofBytes (Text.encode text.toList)

/-- The characters that the bytes of a text write. -/
def toCharacters (text : String) : String :=
  String.ofList (Text.decodeLossy (toBytes text))

/-- The path that a text names. -/
def toPath (text : String) : Path :=
  ⟨toCharacters text⟩

end RenderCheck.Script
