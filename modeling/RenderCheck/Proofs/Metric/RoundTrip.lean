import RenderCheck.Proofs.Binary64.Printer
import RenderCheck.Proofs.Metric.Reading

/-! # Metrics read back

    A metric printed in the parentheses of a tool's output is read as the same
    metric: behind a label without a parenthesis nothing but the number can be
    meant, the text of a number has neither parentheses nor blanks, and the
    numeral it is stands for the number bit by bit.

    * **Characters** of the text of a number (`Binary64.characters_render`).
    * **Round trip**: `read_text` for every number but the NaNs. -/

namespace RenderCheck

namespace Binary64

/-! ## Characters of a number -/

/-- The text of a number is not empty, and consists of digits, the point, the
    minus and the letters of the word for infinity. -/
theorem characters_render {x : Binary64} (hx : x.isNaN = false) :
    x.render ≠ [] ∧ ∀ c ∈ x.render, c.isDigit = true ∨ c ∈ ['.', '-', 'i', 'n', 'f'] := by
  have hminus : ∀ c ∈ minus x.isNegative, c = '-' := by
    unfold minus
    split <;> simp
  cases hfinite : x.isFinite with
  | true =>
    obtain ⟨text, hrender, hpositional, -⟩ := render_of_finite hfinite
    obtain ⟨hne, htext⟩ := hpositional.characters
    rw [hrender]
    refine ⟨by simp [hne], fun c hc => ?_⟩
    rcases List.mem_append.1 hc with hc | hc
    · exact .inr (by simp [hminus c hc])
    · exact (htext c hc).imp_right fun hpoint => by simp [hpoint]
  | false =>
    rw [(render_of_infinite hx hfinite).2]
    refine ⟨by simp, fun c hc => .inr ?_⟩
    rcases List.mem_append.1 hc with hc | hc
    · simp [hminus c hc]
    · exact List.mem_of_mem_drop (i := 2) hc

/-- So it has no blanks and no parentheses. -/
theorem not_blank_of_mem_render {x : Binary64} (hx : x.isNaN = false) {c : Char}
    (hc : c ∈ x.render) : Text.isBlank c = false ∧ c ≠ ')' := by
  rcases (characters_render hx).2 c hc with hdigit | hother
  · simp only [Char.isDigit, Bool.and_eq_true, decide_eq_true_eq, UInt32.le_iff_toNat_le] at hdigit
    have hnumber : 48 ≤ c.toNat ∧ c.toNat ≤ 57 := hdigit
    refine ⟨?_, ?_⟩
    · simp only [Text.isBlank, Text.blankRanges, List.any_cons, List.any_nil, Bool.or_false,
        Bool.or_eq_false_iff, Bool.and_eq_false_iff, decide_eq_false_iff_not]
      omega
    · rintro rfl
      exact absurd hnumber (by decide)
  · simp only [List.mem_cons, List.not_mem_nil, or_false] at hother
    rcases hother with rfl | rfl | rfl | rfl | rfl <;> decide

end Binary64

namespace Metric

/-! ## Round trip -/

/-- Behind a label the first parenthesis is the one that counts. -/
theorem isFirstOpening_append {label : List Char} (hlabel : label ≠ []) (hparen : '(' ∉ label)
    {c : Char} (hc : c ≠ ')') (rest : List Char) :
    IsFirstOpening (label ++ '(' :: c :: rest) (label.length - 1) := by
  have hlength : 0 < label.length := List.length_pos_of_ne_nil hlabel
  have hlast : label.length - 1 + 1 = label.length := by omega
  refine { before := ?_, opens := ?_, behind := ⟨c, ?_, hc⟩, first := ?_ }
  · refine ⟨label[label.length - 1], ?_, fun hopen => hparen (hopen ▸ List.getElem_mem _)⟩
    rw [List.getElem?_append_left (by omega), Option.mem_def, List.getElem?_eq_getElem]
  · rw [hlast, List.getElem?_append_right le_rfl, Nat.sub_self]
    rfl
  · rw [Option.mem_def, List.getElem?_append_right (by omega),
      show label.length - 1 + 2 - label.length = 1 by omega]
    rfl
  -- further left there is only the label
  · intro j hj hopening
    have hopens := hopening.opens
    rw [List.getElem?_append_left (by omega)] at hopens
    exact hparen (List.mem_of_getElem? hopens)

/-- The text in the parenthesis behind a label. -/
theorem inside_append {label value : List Char} (hlabel : label ≠ [])
    (hvalue : ∀ c ∈ value, Text.isBlank c = false ∧ c ≠ ')') :
    inside (label ++ '(' :: value ++ [')']) (label.length - 1) = value := by
  have hlength : 0 < label.length := List.length_pos_of_ne_nil hlabel
  have hdrop : (label ++ '(' :: value ++ [')']).drop (label.length - 1 + 2) = value ++ [')'] := by
    rw [List.append_assoc, List.drop_append, List.drop_eq_nil_of_le (by omega),
      show label.length - 1 + 2 - label.length = 1 by omega]
    rfl
  have htake : (value ++ [')']).takeWhile (· ≠ ')') = value := by
    rw [List.takeWhile_append_of_pos (fun c hc => by simpa using (hvalue c hc).2)]
    simp
  rw [inside, hdrop, htake, Text.trim_of_not_blank fun c hc => (hvalue c hc).1]

/-- A metric that is a number is read back out of the parentheses behind any
    label, with the very same bits; and the text of a finite metric is digits with
    an optional minus and an optional fraction that does not end in zero. -/
theorem read_text (x : Binary64) (hx : x.isNaN = false) :
    (∀ label : String, label ≠ "" → '(' ∉ label.toList →
      read (label ++ "(" ++ text ⟨x⟩ ++ ")") = .ok ⟨x⟩) ∧
    (x.isFinite = true → ∃ digits, (text ⟨x⟩).toList = Binary64.minus x.isNegative ++ digits ∧
      IsPositional digits) := by
  constructor
  · intro label hlabel hparen
    have hne : label.toList ≠ [] := by simpa using hlabel
    have hcharacters (c : Char) (hc : c ∈ x.render) := Binary64.not_blank_of_mem_render hx hc
    have htext : (label ++ "(" ++ text ⟨x⟩ ++ ")").toList
        = label.toList ++ '(' :: x.render ++ [')'] := by
      simp [text, Binary64.text]
    obtain ⟨c, rest, hrender⟩ := List.exists_cons_of_ne_nil (Binary64.characters_render hx).1
    -- the last character of the label is what a metric needs in front
    have hfirst :
        IsFirstOpening (label ++ "(" ++ text ⟨x⟩ ++ ")").toList (label.toList.length - 1) := by
      have hc := (hcharacters c (hrender ▸ List.mem_cons_self)).2
      have hopening := isFirstOpening_append hne hparen hc (rest ++ [')'])
      rw [htext, hrender]
      simpa using hopening
    rw [read_ok_of_first hfirst, htext, inside_append hne hcharacters, ← Binary64.read?_eq_some_iff]
    exact Binary64.read?_render hx
  · intro hfinite
    obtain ⟨digits, hrender, hpositional, -⟩ := Binary64.render_of_finite hfinite
    refine ⟨digits, ?_, hpositional⟩
    rw [text, Binary64.text, String.toList_ofList, hrender]

/-- The number nearest to a tenth, which is shown by a single digit. -/
theorem read_tenth :
    (⟨0x3FB999999999999A⟩ : Binary64).isNaN = false ∧
      text ⟨⟨0x3FB999999999999A⟩⟩ = "0.1" ∧
      read ("diff " ++ "(" ++ text ⟨⟨0x3FB999999999999A⟩⟩ ++ ")") = .ok ⟨⟨0x3FB999999999999A⟩⟩ :=
  ⟨by decide, by decide +kernel, (read_text _ (by decide)).1 "diff " (by decide) (by decide)⟩

end Metric

end RenderCheck
