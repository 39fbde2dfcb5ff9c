import RenderCheck.Text.Category

/-! # Lower-case letters

    The small letters from `a` to `z` are letters. The table of categories is
    searched by halves: `lastEntry_of_lt` and `lastEntry_of_le` are the two ways
    that a step of the search can go, and these letters all go the same way. -/

namespace RenderCheck.Text

variable {table : Array (Nat × Category)} {n low count start : Nat} {category : Category}

/-! ## Steps of the search -/

/-- The entry in the middle begins behind the number. -/
theorem lastEntry_of_lt (hcount : 1 < count)
    (hentry : table[low + count / 2]? = some (start, category)) (hn : n < start) :
    lastEntry table n low count = lastEntry table n low (count / 2) := by
  rw [lastEntry, if_neg (by omega)]
  simp only [hentry, if_neg (Nat.not_le.2 hn)]

/-- The entry in the middle begins at the number or before it. -/
theorem lastEntry_of_le (hcount : 1 < count)
    (hentry : table[low + count / 2]? = some (start, category)) (hn : start ≤ n) :
    lastEntry table n low count = lastEntry table n (low + count / 2) (count - count / 2) := by
  rw [lastEntry, if_neg (by omega)]
  simp only [hentry, if_pos hn]

@[simp] theorem lastEntry_one : lastEntry table n low 1 = low := by
  rw [lastEntry, if_pos (Nat.le_refl 1)]

/-! ## The table -/

theorem size_lowCategories : lowCategories.size = 639 := by decide +kernel

theorem size_middleCategories : middleCategories.size = 544 := by decide +kernel

theorem size_categoryTable : categoryTable.size = 2665 := by
  have hhigh : highCategories.size = 273 := by decide +kernel
  have hancient : ancientCategories.size = 699 := by decide +kernel
  have hlate : lateCategories.size = 510 := by decide +kernel
  unfold categoryTable
  simp only [Array.size_append, size_lowCategories, size_middleCategories, hhigh, hancient, hlate]

/-- The table begins with its first part. -/
theorem categoryTable_low {k : Nat} (hk : k < 639) : categoryTable[k]? = lowCategories[k]? := by
  have hsize := size_lowCategories
  unfold categoryTable
  rw [Array.getElem?_append_left (by simp only [Array.size_append]; omega),
    Array.getElem?_append_left (by simp only [Array.size_append]; omega),
    Array.getElem?_append_left (by simp only [Array.size_append]; omega),
    Array.getElem?_append_left (by omega)]

/-- The entries behind the first part that the search looks at. -/
theorem categoryTable_behind : categoryTable[666]? = some (0x1085, Category.mark true true) ∧
    categoryTable[1332]? = some (0xAB09, Category.letter) := by
  have hlow := size_lowCategories
  have hmiddle := size_middleCategories
  have hhigh : highCategories.size = 273 := by decide +kernel
  constructor
  · have hentry : middleCategories[666 - 639]? = some (0x1085, Category.mark true true) := by
      decide +kernel
    unfold categoryTable
    rw [Array.getElem?_append_left (by simp only [Array.size_append]; omega),
      Array.getElem?_append_left (by simp only [Array.size_append]; omega),
      Array.getElem?_append_left (by simp only [Array.size_append]; omega),
      Array.getElem?_append_right (by omega), hlow, hentry]
  · have hentry : highCategories[1332 - (639 + 544)]? = some (0xAB09, Category.letter) := by
      decide +kernel
    unfold categoryTable
    rw [Array.getElem?_append_left (by simp only [Array.size_append]; omega),
      Array.getElem?_append_left (by simp only [Array.size_append]; omega),
      Array.getElem?_append_right (by simp only [Array.size_append]; omega), Array.size_append,
      hlow, hmiddle, hentry]

/-! ## The letters -/

/-- The search for a small letter ends where they begin. -/
theorem lastEntry_of_lower {n : Nat} (hfirst : 0x61 ≤ n) (hlast : n < 0x7B) :
    lastEntry categoryTable n 0 2665 = 16 := by
  have hentries : lowCategories[333]? = some (0xAE6, Category.digit) ∧
      lowCategories[166]? = some (0x800, Category.letter) ∧
      lowCategories[83]? = some (0x530, Category.other) ∧
      lowCategories[41]? = some (0xBF, Category.punctuation) ∧
      lowCategories[20]? = some (0x7E, Category.symbol false) ∧
      lowCategories[10]? = some (0x3F, Category.punctuation) ∧
      lowCategories[15]? = some (0x60, Category.symbol false) ∧
      lowCategories[17]? = some (0x7B, Category.punctuation) ∧
      lowCategories[16]? = some (0x61, Category.letter) := by decide +kernel
  obtain ⟨h333, h166, h83, h41, h20, h10, h15, h17, h16⟩ := hentries
  have hlow {k : Nat} {entry : Nat × Category} (hk : k < 639) (h : lowCategories[k]? = some entry) :
      categoryTable[k]? = some entry := (categoryTable_low hk).trans h
  calc lastEntry categoryTable n 0 2665
      = lastEntry categoryTable n 0 1332 :=
        lastEntry_of_lt (by decide) categoryTable_behind.2 (by omega)
    _ = lastEntry categoryTable n 0 666 :=
        lastEntry_of_lt (by decide) categoryTable_behind.1 (by omega)
    _ = lastEntry categoryTable n 0 333 :=
        lastEntry_of_lt (by decide) (hlow (by decide) h333) (by omega)
    _ = lastEntry categoryTable n 0 166 :=
        lastEntry_of_lt (by decide) (hlow (by decide) h166) (by omega)
    _ = lastEntry categoryTable n 0 83 :=
        lastEntry_of_lt (by decide) (hlow (by decide) h83) (by omega)
    _ = lastEntry categoryTable n 0 41 :=
        lastEntry_of_lt (by decide) (hlow (by decide) h41) (by omega)
    _ = lastEntry categoryTable n 0 20 :=
        lastEntry_of_lt (by decide) (hlow (by decide) h20) (by omega)
    -- from here on the entries begin before the letters as well
    _ = lastEntry categoryTable n 10 10 :=
        lastEntry_of_le (by decide) (hlow (by decide) h10) (by omega)
    _ = lastEntry categoryTable n 15 5 :=
        lastEntry_of_le (by decide) (hlow (by decide) h15) (by omega)
    _ = lastEntry categoryTable n 15 2 :=
        lastEntry_of_lt (by decide) (hlow (by decide) h17) (by omega)
    _ = lastEntry categoryTable n 16 1 :=
        lastEntry_of_le (by decide) (hlow (by decide) h16) (by omega)
    _ = 16 := lastEntry_one

/-- The category of a character is that of the entry where the search ends. -/
theorem snd_getD_of_getElem? {k : Nat} {entry : Nat × Category} (other : Nat × Category)
    (h : table[k]? = some entry) : (table.getD k other).2 = entry.2 := by
  rw [Array.getD_eq_getD_getElem?, h, Option.getD_some]

-- as an equation of functions: on a character it would be checked by searching
theorem category_eq : Text.category = fun c =>
    (categoryTable.getD (lastEntry categoryTable c.toNat 0 categoryTable.size) (0, .other)).2 :=
  rfl

/-- The small letters are letters. -/
theorem category_of_lower {c : Char} (hfirst : 0x61 ≤ c.toNat) (hlast : c.toNat < 0x7B) :
    Text.category c = .letter := by
  have hsearch : lastEntry categoryTable c.toNat 0 categoryTable.size = 16 := by
    rw [size_categoryTable, lastEntry_of_lower hfirst hlast]
  have hentry : categoryTable[16]? = some (0x61, Category.letter) := by
    rw [categoryTable_low (by decide)]
    decide +kernel
  have hfound := snd_getD_of_getElem? (0, .other) hentry
  rw [category_eq]
  dsimp only
  rw [hsearch, hfound]

theorem isAlphanumeric_of_lower {c : Char} (hfirst : 0x61 ≤ c.toNat) (hlast : c.toNat < 0x7B) :
    isAlphanumeric c = true := by
  unfold isAlphanumeric
  rw [category_of_lower hfirst hlast]
  rfl

end RenderCheck.Text
