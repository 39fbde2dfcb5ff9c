import RenderCheck.Text.Category

/-! # Printable characters

    Which characters stand for themselves when a text is shown between
    quotation marks. Not printable are control and format characters, private
    and unassigned code points, every separator but the space, the marks that
    extend the character before them, and letters that are never seen. -/

namespace RenderCheck.Text

/-- Letters that only hold a place and are never seen. -/
def fillers : List Char := ['\u115F', '\u1160', '\u3164', '\uFFA0']

/-- The character stands for itself in quoted text. -/
def isPrintable (c : Char) : Bool :=
  if c.toNat < 0x7F then 0x20 ≤ c.toNat
  else
    match category c with
    | .other | .separator => false
    | .mark _ extending => !extending
    | _ => !fillers.contains c

end RenderCheck.Text
