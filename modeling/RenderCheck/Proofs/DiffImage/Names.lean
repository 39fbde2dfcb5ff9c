import RenderCheck.Proofs.Path.Names

/-! # Names of diff images

    The diff image of a pair is named by the components of its relative path
    with dashes between them. A dash inside a component looks the same as one
    between two, so the name tells the components cut at all their dashes, and
    nothing else about the path (`diffFileName_eq_iff`). -/

namespace RenderCheck

/-- The components of a pair's relative path, cut at every dash in them. -/
def FilePair.dashParts (t : FilePair) : List (List Char) :=
  t.relative.components.flatMap fun component => component.text.toList.splitOn '-'

namespace DiffImage

/-! ## Dashes between names -/

section Names

variable {names : List String}

/-- Cutting at dashes cuts between the names and inside them. -/
theorem splitOn_intercalate (hsome : names ≠ []) :
    ("-".intercalate names).toList.splitOn '-'
      = names.flatMap fun name => name.toList.splitOn '-' := by
  induction names with
  | nil => exact absurd rfl hsome
  | cons first rest ih =>
    rw [List.flatMap_cons]
    by_cases hrest : rest = []
    · simp [hrest, String.intercalate_singleton]
    · have hcut := List.splitOn_append_cons_self (a := '-') first.toList
        ("-".intercalate rest).toList
      rw [String.intercalate_cons_of_ne_nil hrest, ← ih hrest, ← hcut]
      simp

/-- Names with dashes between them are alike if their parts between dashes
    are. -/
theorem intercalate_eq_iff {names' : List String} (hsome : names ≠ []) (hsome' : names' ≠ []) :
    "-".intercalate names = "-".intercalate names' ↔
      (names.flatMap fun name => name.toList.splitOn '-')
        = names'.flatMap fun name => name.toList.splitOn '-' := by
  rw [← splitOn_intercalate hsome, ← splitOn_intercalate hsome']
  refine ⟨fun h => by rw [h], fun h => ?_⟩
  -- putting the dashes back gives the texts again
  have hback (text : List Char) : ['-'].intercalate (text.splitOn '-') = text :=
    List.intercalate_splitOn '-'
  rw [← String.toList_inj, ← hback ("-".intercalate names).toList, h, hback]

/-- Dashes are no separators. -/
theorem no_separator_intercalate (h : ∀ name ∈ names, '/' ∉ name.toList) :
    '/' ∉ ("-".intercalate names).toList := by
  induction names with
  | nil => simp
  | cons name names ih =>
    have hname := h name List.mem_cons_self
    have hnames := ih fun other hother => h other (List.mem_cons_of_mem _ hother)
    by_cases hlast : names = []
    · rw [hlast, String.intercalate_singleton]
      exact hname
    · rw [String.intercalate_cons_of_ne_nil hlast, String.toList_append, String.toList_append,
        List.mem_append, List.mem_append]
      rintro ((hmem | hmem) | hmem)
      · exact hname hmem
      · revert hmem
        decide
      · exact hnames hmem

/-- Whatever stands in front of a name, with dashes between them they make a
    name. -/
theorem isName_intercalate_concat {last : String} (hlast : IsName last)
    (h : ∀ name ∈ names, '/' ∉ name.toList) : IsName ("-".intercalate (names ++ [last])) := by
  -- of several texts there is a dash in the text, which tells it from the dots
  by_cases hfront : names = []
  · rw [hfront, List.nil_append, String.intercalate_singleton]
    exact hlast
  · have htext : "-".intercalate (names ++ [last]) = "-".intercalate names ++ "-" ++ last := by
      rw [String.intercalate_append_of_ne_nil hfront (List.cons_ne_nil _ _),
        String.intercalate_singleton]
    have hdash : '-' ∈ ("-".intercalate (names ++ [last])).toList := by
      rw [htext]
      simp
    have hother {text : String} (hnone : '-' ∉ text.toList) :
        "-".intercalate (names ++ [last]) ≠ text := by
      intro heq
      rw [heq] at hdash
      exact hnone hdash
    refine ⟨hother (by decide), hother (by decide), hother (by decide), no_separator_intercalate ?_⟩
    intro name hname
    rcases List.mem_append.1 hname with hname | hname
    · exact h name hname
    · rw [List.mem_singleton.1 hname]
      exact hlast.no_separator

/-- Names with dashes between them make a name. -/
theorem isName_intercalate (hsome : names ≠ []) (h : ∀ name ∈ names, IsName name) :
    IsName ("-".intercalate names) := by
  obtain ⟨front, last, rfl⟩ := List.eq_nil_or_concat names |>.resolve_left hsome
  rw [List.concat_eq_append] at h ⊢
  exact isName_intercalate_concat (h last (by simp)) fun name hname =>
    (h name (by simp [hname])).no_separator

end Names

/-- The diff image of a pair whose relative path ends in the name of the file is
    named by all components of that path. -/
theorem diffFileName_of_components {t : FilePair} {front : List Component} {last : String}
    (hname : t.fileName? = some last) (h : t.relative.components = front ++ [.name last]) :
    t.diffFileName = "-".intercalate (t.relative.components.map Component.text) := by
  have hdirectory : FilePair.directoryComponents t.relative = front := by
    unfold FilePair.directoryComponents
    rw [h, List.getLast?_concat, List.dropLast_concat]
  unfold FilePair.diffFileName
  rw [hname, hdirectory, h, List.map_append, List.map_singleton, Component.text]
  cases front with
  | nil => simp [String.intercalate_singleton]
  | cons first rest =>
    rw [List.map_cons, String.intercalate_append_of_ne_nil (List.cons_ne_nil _ _)
      (List.cons_ne_nil _ _), String.intercalate_singleton]
    rfl

/-! ## Pairs below the roots -/

section Pairs

variable {referenceRoot renderRoot : Path} {names names' : List String}

/-- The diff image of a pair is named by the names that lead to it. -/
theorem diffFileName_below (hsome : names ≠ []) (h : ∀ name ∈ names, IsName name) :
    (FilePair.below referenceRoot renderRoot names).diffFileName = "-".intercalate names := by
  obtain ⟨front, last, rfl⟩ := List.eq_nil_or_concat names |>.resolve_left hsome
  rw [List.concat_eq_append] at h ⊢
  have hname : (FilePair.below referenceRoot renderRoot (front ++ [last])).fileName? = some last := by
    unfold FilePair.fileName? FilePair.below
    rw [Path.below_concat]
    exact Path.fileName?_join _ (h last (by simp))
  have hcomponents : (FilePair.below referenceRoot renderRoot (front ++ [last])).relative.components
      = front.map .name ++ [.name last] := by
    unfold FilePair.below
    rw [Path.components_intercalate h, List.map_append, List.map_singleton]
  rw [diffFileName_of_components hname hcomponents, hcomponents]
  simp [Function.comp_def, Component.text]

theorem dashParts_below (h : ∀ name ∈ names, IsName name) :
    (FilePair.below referenceRoot renderRoot names).dashParts
      = names.flatMap fun name => name.toList.splitOn '-' := by
  unfold FilePair.dashParts FilePair.below
  rw [Path.components_intercalate h, List.flatMap_map]
  rfl

/-- Diff images are named alike if the relative paths are alike when they are
    cut at all dashes. -/
theorem diffFileName_eq_iff (hsome : names ≠ []) (h : ∀ name ∈ names, IsName name)
    (hsome' : names' ≠ []) (h' : ∀ name ∈ names', IsName name) :
    (FilePair.below referenceRoot renderRoot names).diffFileName
        = (FilePair.below referenceRoot renderRoot names').diffFileName ↔
      (FilePair.below referenceRoot renderRoot names).dashParts
        = (FilePair.below referenceRoot renderRoot names').dashParts := by
  rw [diffFileName_below hsome h, diffFileName_below hsome' h', dashParts_below h,
    dashParts_below h', intercalate_eq_iff hsome hsome']

/-- Different names make different paths. -/
theorem join_inj (dir : Path) {name name' : String} (h : IsName name) (h' : IsName name') :
    dir.join ⟨name⟩ = dir.join ⟨name'⟩ ↔ name = name' := by
  refine ⟨fun heq => ?_, fun heq => by rw [heq]⟩
  have htext := congrArg Path.text heq
  rw [Path.join_text dir h, Path.join_text dir h'] at htext
  split at htext <;> simpa using htext

end Pairs

end DiffImage

end RenderCheck
