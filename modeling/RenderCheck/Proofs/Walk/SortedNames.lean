import RenderCheck.Walk

/-! # Names in order

    A walk goes through the names in a directory from the smallest to the
    greatest, whatever order they are listed in. -/

namespace RenderCheck.Walk

theorem insertName_perm (name : String) (names : List String) :
    (insertName name names).Perm (name :: names) := by
  induction names with
  | nil => exact .refl _
  | cons other names ih =>
    unfold insertName
    split
    · exact .refl _
    · exact (ih.cons other).trans (.swap name other names)

theorem sortedNames_perm (entries : List (String × Node)) (keep : String × Node → Bool) :
    (sortedNames entries keep).Perm ((entries.filter keep).map Prod.fst) := by
  unfold sortedNames
  induction (entries.filter keep).map Prod.fst with
  | nil => exact .refl _
  | cons name names ih =>
    rw [List.foldr_cons]
    exact (insertName_perm name _).trans (ih.cons name)

/-- A name put among ordered names keeps them in order. -/
theorem pairwise_insertName (name : String) {names : List String}
    (h : names.Pairwise (· ≤ ·)) : (insertName name names).Pairwise (· ≤ ·) := by
  induction names with
  | nil => exact List.pairwise_singleton _ name
  | cons other names ih =>
    obtain ⟨hother, hnames⟩ := List.pairwise_cons.1 h
    unfold insertName
    split
    · next hle =>
      refine List.pairwise_cons.2 ⟨fun later hlater => ?_, h⟩
      rcases List.mem_cons.1 hlater with rfl | hlater
      · exact hle
      · exact String.le_trans hle (hother later hlater)
    · next hgt =>
      refine List.pairwise_cons.2 ⟨fun later hlater => ?_, ih hnames⟩
      rcases List.mem_cons.1 ((insertName_perm name names).mem_iff.1 hlater) with rfl | hlater
      · exact (String.le_total later other).resolve_left hgt
      · exact hother later hlater

/-- Names that occur once are listed once. -/
theorem nodup_sortedNames {entries : List (String × Node)}
    (h : (entries.map Prod.fst).Nodup) (keep : String × Node → Bool) :
    (sortedNames entries keep).Nodup :=
  (sortedNames_perm entries keep).nodup_iff.2 (h.sublist ((entries.filter_sublist).map Prod.fst))

/-- They are listed in strictly increasing order. -/
theorem pairwise_sortedNames {entries : List (String × Node)}
    (h : (entries.map Prod.fst).Nodup) (keep : String × Node → Bool) :
    (sortedNames entries keep).Pairwise (· < ·) := by
  -- sorted by how they were put in, and strictly as none is there twice
  have hsorted : (sortedNames entries keep).Pairwise (· ≤ ·) := by
    unfold sortedNames
    induction (entries.filter keep).map Prod.fst with
    | nil => exact .nil
    | cons name names ih => exact pairwise_insertName name ih
  refine (hsorted.and (nodup_sortedNames h keep)).imp ?_
  rintro a b ⟨hle, hne⟩
  by_cases hlt : a < b
  · exact hlt
  · exact absurd (String.le_antisymm hle (String.not_lt.1 hlt)) hne

theorem mem_sortedNames {entries : List (String × Node)} {keep : String × Node → Bool}
    {name : String} :
    name ∈ sortedNames entries keep ↔ ∃ node, (name, node) ∈ entries ∧ keep (name, node) = true := by
  rw [(sortedNames_perm entries keep).mem_iff]
  simp

end RenderCheck.Walk
