import Mathlib.Data.List.DropRight
import RenderCheck.Proofs.Path.Names

/-! # Components at the seam

    Paths are taken apart and put together as texts, and what is meant are their
    components. The root and a leading `.` are said in front of a path and
    nowhere else, so a path that was cut out behind others begins with a name or
    leads upwards, and goes on in the same way wherever it is put.

    * **What is said behind the front**: names and ways up.
    * **Cutting off the front**: `components_dropComponents`.
    * **Pairs**: a reference and its counterpart have the same components behind
      those of their roots (`ofReference_components`). -/

namespace RenderCheck

namespace Path

/-! ## What is said behind the front -/

theorem ofPart?_of_isHollow {part : List Char} (h : isHollow part = true) : ofPart? part = none := by
  rw [ofPart?, if_pos h]

/-- A part leads upwards or says a name. -/
theorem parent_or_name_of_ofPart? {p : Path} {component : Component}
    (h : component ∈ p.parts.filterMap ofPart?) :
    component = .parent ∨ ∃ name, component = .name name ∧ IsName name := by
  obtain ⟨part, hpart, hsays⟩ := List.mem_filterMap.1 h
  have hseparator := no_separator_of_mem_split hpart
  unfold ofPart? at hsays
  split at hsays
  · cases hsays
  next hsolid =>
  split at hsays
  · cases hsays
    exact .inl rfl
  next hparent =>
  cases hsays
  exact .inr ⟨_, rfl, .ofList (Bool.eq_false_iff.2 hsolid) hparent hseparator⟩

/-- The name of a file is one. -/
theorem isName_of_fileName? {p : Path} {name : String} (h : p.fileName? = some name) :
    p.components.getLast? = some (.name name) ∧ IsName name := by
  unfold fileName? at h
  split at h
  swap
  · cases h
  next text hlast =>
  cases h
  refine ⟨hlast, ?_⟩
  rcases List.mem_append.1 (List.mem_of_getLast? hlast) with hlead | hmem
  -- what may stand in front of all parts is no name
  · rw [Option.mem_toList] at hlead
    unfold lead? at hlead
    split at hlead <;> cases hlead
  · rcases parent_or_name_of_ofPart? hmem with hparent | ⟨other, hother, hname⟩
    · cases hparent
    · cases hother
      exact hname

/-! ## Cutting off the front -/

theorem filterMap_dropWhile (parts : List (List Char)) :
    (parts.dropWhile isHollow).filterMap ofPart? = parts.filterMap ofPart? := by
  induction parts with
  | nil => rfl
  | cons part parts ih =>
    by_cases hpart : isHollow part = true
    · rw [List.dropWhile_cons_of_pos hpart, ih,
        List.filterMap_cons_none (ofPart?_of_isHollow hpart)]
    · rw [List.dropWhile_cons_of_neg hpart]

/-- A hollow end says nothing. -/
theorem filterMap_dropHollowEnd (parts : List (List Char)) :
    (dropHollowEnd parts).filterMap ofPart? = parts.filterMap ofPart? := by
  unfold dropHollowEnd
  rw [List.filterMap_reverse, filterMap_dropWhile, List.filterMap_reverse, List.reverse_reverse]

/-- Each solid part says one component. -/
theorem filterMap_dropSolid (count : Nat) (parts : List (List Char)) :
    (dropSolid count parts).filterMap ofPart? = (parts.filterMap ofPart?).drop count := by
  fun_induction dropSolid count parts with
  | case1 parts => rfl
  | case2 count => rfl
  | case3 count part parts hpart ih => rw [ih, List.filterMap_cons_none (ofPart?_of_isHollow hpart)]
  | case4 count part parts hpart ih =>
    obtain ⟨component, hsays⟩ := exists_ofPart? (Bool.not_eq_true _ ▸ hpart)
    rw [ih, List.filterMap_cons_some hsays, List.drop_succ_cons]

theorem dropSolid_suffix (count : Nat) (parts : List (List Char)) :
    dropSolid count parts <:+ parts := by
  fun_induction dropSolid count parts with
  | case1 parts => exact List.suffix_refl _
  | case2 count => exact List.suffix_refl _
  | case3 count part parts hpart ih => exact ih.trans (List.suffix_cons _ _)
  | case4 count part parts hpart ih => exact ih.trans (List.suffix_cons _ _)

/-- Parts that do not begin with a hollow one are those of the path that is made
    of them, up to the empty part of an empty text. -/
theorem parts_of_solid {kept : List (List Char)} (hkept : ∀ part ∈ kept, '/' ∉ part)
    (hsolid : ∀ part ∈ kept.head?, isHollow part = false) :
    lead? (Path.mk (String.ofList (unsplit kept))).parts = none ∧
    (Path.mk (String.ofList (unsplit kept))).components = kept.filterMap ofPart? := by
  cases kept with
  | nil => exact ⟨rfl, rfl⟩
  | cons part more =>
    have hparts : (Path.mk (String.ofList (unsplit (part :: more)))).parts = part :: more := by
      unfold parts
      rw [String.toList_ofList, split_unsplit (List.cons_ne_nil _ _) hkept]
    have hpart : part ≠ [] ∧ part ≠ ['.'] := by
      simpa [isHollow] using hsolid part rfl
    have hlead : lead? (part :: more) = none := by
      rw [lead?_cons, if_neg fun hnone => hpart.1 hnone.1, if_neg hpart.2]
    unfold components
    rw [hparts, hlead]
    exact ⟨rfl, rfl⟩

/-- What is left of a path behind its first components says the others and
    begins nowhere. -/
theorem components_dropComponents (p : Path) {count : Nat} (hcount : count ≠ 0) :
    lead? (p.dropComponents count).parts = none ∧
    (p.dropComponents count).components = p.components.drop count := by
  let solid := count - (lead? p.parts).toList.length
  let kept := dropHollowEnd ((dropSolid solid p.parts).dropWhile isHollow)
  have hfront : kept <+: (dropSolid solid p.parts).dropWhile isHollow := List.rdropWhile_prefix _ _
  have hkept : ∀ part ∈ kept, '/' ∉ part := by
    intro part hpart
    have hmem := (List.dropWhile_suffix _).subset (hfront.subset hpart)
    exact no_separator_of_mem_split ((dropSolid_suffix _ _).subset hmem)
  have hsolid : ∀ part ∈ kept.head?, isHollow part = false := by
    intro part hpart
    have hhead := List.head?_dropWhile_not isHollow (dropSolid solid p.parts)
    obtain ⟨more, hmore⟩ := List.head?_eq_some_iff.1 hpart
    obtain ⟨rest, hrest⟩ := hfront
    rw [← hrest, hmore, List.cons_append] at hhead
    simpa using hhead
  have hsays : kept.filterMap ofPart? = (p.parts.filterMap ofPart?).drop solid := by
    rw [filterMap_dropHollowEnd, filterMap_dropWhile, filterMap_dropSolid]
  -- the lead is one component at most, and at least one is cut off
  have hlead : (lead? p.parts).toList.length ≤ count := by
    cases lead? p.parts with
    | none => exact Nat.zero_le _
    | some _ => exact Nat.one_le_iff_ne_zero.2 hcount
  have hrest : p.dropComponents count = ⟨String.ofList (unsplit kept)⟩ := by
    rw [dropComponents, if_neg hcount]
  obtain ⟨hnone, hcomponents⟩ := parts_of_solid hkept hsolid
  rw [hrest]
  refine ⟨hnone, ?_⟩
  rw [hcomponents, hsays, components, List.drop_append, List.drop_of_length_le hlead,
    List.nil_append]

/-- What a path says behind its front are names and ways up. -/
theorem parent_or_name_of_mem {p : Path} (hlead : lead? p.parts = none) {component : Component}
    (h : component ∈ p.components) :
    component = .parent ∨ ∃ name, component = .name name ∧ IsName name := by
  rw [components, hlead] at h
  exact parent_or_name_of_ofPart? h

end Path

/-! ## Pairs -/

namespace FilePair

variable {referenceRoot renderRoot reference : Path} {pair : FilePair}

/-- The relative path of a pair is what is left of the reference behind the
    root. -/
theorem ofReference_eq_ok_iff :
    ofReference referenceRoot renderRoot reference = .ok pair ↔
      referenceRoot.components <+: reference.components ∧
      pair = ⟨reference, renderRoot.join (reference.dropComponents referenceRoot.components.length),
        reference.dropComponents referenceRoot.components.length⟩ := by
  unfold ofReference Path.stripPrefix?
  rw [← List.isPrefixOf_iff_prefix]
  by_cases hfront : referenceRoot.components.isPrefixOf reference.components = true
  · rw [if_pos hfront]
    simp [hfront, eq_comm]
  · rw [if_neg hfront]
    simp [hfront]

/-- It says nothing in front, and all that the reference says behind the root. -/
theorem relative_of_ofReference (hroot : referenceRoot.text ≠ "")
    (h : ofReference referenceRoot renderRoot reference = .ok pair) :
    Path.lead? pair.relative.parts = none ∧
    reference.components = referenceRoot.components ++ pair.relative.components := by
  obtain ⟨hfront, rfl⟩ := ofReference_eq_ok_iff.1 h
  have hcount : referenceRoot.components.length ≠ 0 := by
    simpa using Path.components_ne_nil hroot
  obtain ⟨hlead, hcomponents⟩ := reference.components_dropComponents hcount
  refine ⟨hlead, ?_⟩
  rw [hcomponents]
  exact List.prefix_iff_eq_append.1 hfront |>.symm

/-- Below a root that is not empty there are pairs for the references whose
    components begin with those of the root, and the others lie outside. Behind
    the two roots both files of a pair have the components of its relative path,
    which begins nowhere; so pairs with unlike relative paths have different
    counterparts. -/
theorem ofReference_components (hroot : referenceRoot.text ≠ "") (renderRoot : Path) :
    (∀ reference : Path,
      ((∃ pair, ofReference referenceRoot renderRoot reference = .ok pair) ↔
        referenceRoot.components <+: reference.components) ∧
      (¬referenceRoot.components <+: reference.components →
        ofReference referenceRoot renderRoot reference
          = .error (.invalidConfig (.outsideRoot reference referenceRoot)))) ∧
    (∀ (reference : Path) (pair : FilePair),
      ofReference referenceRoot renderRoot reference = .ok pair →
        pair.reference = reference ∧ pair.relative.isAbsolute = false ∧
        reference.components = referenceRoot.components ++ pair.relative.components ∧
        pair.generated.components = renderRoot.components ++ pair.relative.components) ∧
    ∀ (reference reference' : Path) (pair pair' : FilePair),
      ofReference referenceRoot renderRoot reference = .ok pair →
      ofReference referenceRoot renderRoot reference' = .ok pair' →
      pair.relative.components ≠ pair'.relative.components →
        pair.generated.components ≠ pair'.generated.components := by
  -- the relative path does not begin with a root, so joining only appends it
  have hgenerated {reference : Path} {pair : FilePair}
      (h : ofReference referenceRoot renderRoot reference = .ok pair) :
      pair.generated.components = renderRoot.components ++ pair.relative.components := by
    have hlead := (relative_of_ofReference hroot h).1
    obtain ⟨-, rfl⟩ := ofReference_eq_ok_iff.1 h
    exact Path.components_join_eq renderRoot hlead
  refine ⟨fun reference => ⟨⟨?_, ?_⟩, ?_⟩, ?_, ?_⟩
  · rintro ⟨pair, h⟩
    exact (ofReference_eq_ok_iff.1 h).1
  · intro hfront
    exact ⟨_, ofReference_eq_ok_iff.2 ⟨hfront, rfl⟩⟩
  · intro hfront
    rw [← List.isPrefixOf_iff_prefix] at hfront
    unfold ofReference Path.stripPrefix?
    rw [if_neg hfront]
  · intro reference pair h
    obtain ⟨hlead, hcomponents⟩ := relative_of_ofReference hroot h
    refine ⟨?_, Path.not_isAbsolute_of_lead? hlead, hcomponents, hgenerated h⟩
    obtain ⟨-, rfl⟩ := ofReference_eq_ok_iff.1 h
    rfl
  · intro reference reference' pair pair' h h' hunlike hsame
    -- the same root stands in front of both
    rw [hgenerated h, hgenerated h'] at hsame
    exact hunlike (List.append_cancel_left hsame)

namespace Untidy

/-- A root with more separators and dots than it needs, and references below it
    that are no tidier. -/
theorem counterparts_apart :
    (Path.mk "./ref//.").text ≠ "" ∧
    ∃ pair pair', ofReference ⟨"./ref//."⟩ ⟨"out/."⟩ ⟨"./ref/./a//../b.png/"⟩ = .ok pair ∧
      ofReference ⟨"./ref//."⟩ ⟨"out/."⟩ ⟨"./ref/b.png"⟩ = .ok pair' ∧
      pair.relative.components = [.name "a", .parent, .name "b.png"] ∧
      pair.generated.components = [.name "out", .name "a", .parent, .name "b.png"] ∧
      pair.generated.components ≠ pair'.generated.components ∧
      ofReference ⟨"./ref//."⟩ ⟨"out/."⟩ ⟨"ref/b.png"⟩
        = .error (.invalidConfig (.outsideRoot ⟨"ref/b.png"⟩ ⟨"./ref//."⟩)) := by
  have hroot : (Path.mk "./ref//.").text ≠ "" := by decide
  obtain ⟨hsome, heach, hunlike⟩ := ofReference_components hroot ⟨"out/."⟩
  obtain ⟨pair, hpair⟩ := (hsome ⟨"./ref/./a//../b.png/"⟩).1.2 (by decide +kernel)
  obtain ⟨pair', hpair'⟩ := (hsome ⟨"./ref/b.png"⟩).1.2 (by decide +kernel)
  obtain ⟨-, -, hcomponents, hgenerated⟩ := heach _ pair hpair
  obtain ⟨-, -, hcomponents', -⟩ := heach _ pair' hpair'
  have hrelative : pair.relative.components = [.name "a", .parent, .name "b.png"] := by
    refine List.append_cancel_left (hcomponents.symm.trans ?_)
    decide +kernel
  have hrelative' : pair'.relative.components = [.name "b.png"] := by
    refine List.append_cancel_left (hcomponents'.symm.trans ?_)
    decide +kernel
  refine ⟨hroot, pair, pair', hpair, hpair', hrelative, ?_, ?_, ?_⟩
  · rw [hgenerated, hrelative]
    decide +kernel
  · refine hunlike _ _ pair pair' hpair hpair' ?_
    rw [hrelative, hrelative']
    decide
  · exact (hsome ⟨"ref/b.png"⟩).2 (by decide +kernel)

end Untidy

end FilePair

end RenderCheck
