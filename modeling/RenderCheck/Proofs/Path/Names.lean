import RenderCheck.FilePair

/-! # Paths that go down through names

    The path of a directory and the name of an entry in it make the path of
    the entry. Whatever way the directory was written, its parts stay in front
    of the new one, so the components of the new path are those of the
    directory and then the name, and taking the directory off again leaves
    the names alone.

    * **Parts**: cutting at separators is the list operation `splitOn`.
    * **Going on from a path**: what is joined puts its parts behind those of the
      path (`components_join_eq`).
    * **One name further**: parts and components of `p.join ⟨name⟩`.
    * **Many names further**: `components_below` and `ofReference_below`. -/

namespace RenderCheck

/-! ## Names -/

/-- A text that can be the name of an entry. -/
structure IsName (name : String) : Prop where
  nonempty : name ≠ ""
  not_current : name ≠ "."
  not_parent : name ≠ ".."
  no_separator : '/' ∉ name.toList

instance (name : String) : Decidable (IsName name) :=
  decidable_of_iff (name ≠ "" ∧ name ≠ "." ∧ name ≠ ".." ∧ '/' ∉ name.toList)
    ⟨fun ⟨h₁, h₂, h₃, h₄⟩ => ⟨h₁, h₂, h₃, h₄⟩, fun ⟨h₁, h₂, h₃, h₄⟩ => ⟨h₁, h₂, h₃, h₄⟩⟩

namespace IsName

/-- A part that says something and leads nowhere else is a name. -/
theorem ofList {part : List Char} (hsolid : Path.isHollow part = false) (hparent : part ≠ ['.', '.'])
    (hseparator : '/' ∉ part) : IsName (String.ofList part) := by
  have hhollow : part ≠ [] ∧ part ≠ ['.'] := by simpa [Path.isHollow] using hsolid
  have hother {text : String} (htext : part ≠ text.toList) : String.ofList part ≠ text :=
    fun heq => htext (by rw [← heq, String.toList_ofList])
  exact ⟨hother hhollow.1, hother hhollow.2, hother hparent, by rwa [String.toList_ofList]⟩

variable {name : String}

/-- A name is a part that says something. -/
theorem not_isHollow (h : IsName name) : Path.isHollow name.toList = false := by
  have hcurrent : name.toList ≠ ['.'] := fun heq => h.not_current (String.toList_inj.1 heq)
  simp [Path.isHollow, h.nonempty, hcurrent]

/-- What a name says as a part is that name. -/
theorem ofPart?_eq (h : IsName name) : Path.ofPart? name.toList = some (.name name) := by
  have hparent : name.toList ≠ ['.', '.'] := fun heq => h.not_parent (String.toList_inj.1 heq)
  simp [Path.ofPart?, h.not_isHollow, hparent]

/-- A name is a path that begins nowhere. -/
theorem not_isAbsolute (h : IsName name) : (Path.mk name).isAbsolute = false := by
  have hhead : name.toList.head? ≠ some '/' :=
    fun heq => h.no_separator (List.mem_of_mem_head? (by simp [heq]))
  simp [Path.isAbsolute, hhead]

/-- What begins with a name is a path that begins nowhere. -/
theorem not_isAbsolute_append (h : IsName name) (rest : String) :
    (Path.mk (name ++ rest)).isAbsolute = false := by
  obtain ⟨c, more, hname⟩ := List.exists_cons_of_ne_nil (l := name.toList) (by simpa using h.nonempty)
  have hsolid : c ≠ '/' := fun heq => h.no_separator (by simp [hname, heq])
  simp [Path.isAbsolute, hname, hsolid]

end IsName

namespace Path

/-! ## Parts -/

/-- Cutting a text at separators. -/
theorem split_eq_splitOn (text : List Char) : split text = text.splitOn '/' := by
  fun_induction split text with
  | case1 => rfl
  | case2 rest ih => simp [List.splitOn_cons_eq_if_modifyHead, ih]
  | case3 c rest hc part parts hparts ih =>
    have hne : ¬c = '/' := hc
    simp [List.splitOn_cons_eq_if_modifyHead, ← ih, hne, hparts]
  | case4 c rest hc hparts ih =>
    rw [hparts] at ih
    exact absurd ih.symm (List.splitOn_ne_nil '/' rest)

theorem parts_eq_splitOn (p : Path) : p.parts = p.text.toList.splitOn '/' :=
  split_eq_splitOn p.text.toList

/-- The parts of a path that is not empty are more than one empty part. -/
theorem parts_ne_singleton_nil {p : Path} (h : p.text ≠ "") : p.parts ≠ [[]] := by
  intro hparts
  have htext : ['/'].intercalate (p.text.toList.splitOn '/') = p.text.toList :=
    List.intercalate_splitOn '/'
  rw [← parts_eq_splitOn, hparts] at htext
  exact h (String.toList_inj.1 htext.symm)

/-- What the first part of some says. -/
theorem lead?_cons (part : List Char) (parts : List (List Char)) :
    lead? (part :: parts) =
      if part = [] ∧ parts ≠ [] then some .root
      else if part = ['.'] then some .current
      else none := by
  cases part with
  | nil => cases parts <;> rfl
  | cons c part =>
    by_cases hcurrent : c :: part = ['.']
    · rw [hcurrent]
      rfl
    · unfold lead?
      split <;> simp_all

/-- Putting separators between parts and cutting at them again. -/
theorem split_unsplit {parts : List (List Char)} (hparts : parts ≠ [])
    (h : ∀ part ∈ parts, '/' ∉ part) : split (unsplit parts) = parts := by
  rw [split_eq_splitOn, unsplit, List.splitOn_intercalate '/' h hparts]

/-- The parts of a path that stay in front when a name is joined to it: all of
    them but the empty one at an open end. -/
def stem (p : Path) : List (List Char) :=
  if p.text = "" ∨ p.text.toList.getLast? = some '/' then p.parts.dropLast else p.parts

/-- A text that ends in a separator has an empty part behind it. -/
theorem parts_of_open {p : Path} (h : p.text.toList.getLast? = some '/') :
    ∃ text, p.text.toList = text ++ ['/'] ∧ p.parts = text.splitOn '/' ++ [[]] := by
  obtain ⟨text, htext⟩ := List.getLast?_eq_some_iff.1 h
  refine ⟨text, htext, ?_⟩
  rw [parts_eq_splitOn, htext, List.splitOn_append_cons_self]
  rfl

/-- The parts left out of the stem say nothing. -/
theorem filterMap_stem (f : List Char → Option Component) (hf : f [] = none) (p : Path) :
    p.stem.filterMap f = p.parts.filterMap f := by
  unfold stem
  split
  · next hopen =>
    rcases hopen with hempty | hopen
    · simp [parts, hempty, split, hf]
    · obtain ⟨text, -, hparts⟩ := parts_of_open hopen
      rw [hparts, List.dropLast_concat, List.filterMap_append]
      simp [hf]
  · rfl

/-! ## Going on from a path -/

/-- A part has no separator in it. -/
theorem no_separator_of_mem_split {text part : List Char} (h : part ∈ split text) :
    '/' ∉ part := by
  fun_induction split text generalizing part with
  | case1 => simp_all
  | case2 rest ih =>
    rcases List.mem_cons.1 h with rfl | h
    · simp
    · exact ih h
  | case3 c rest hc first parts hparts ih =>
    rw [hparts] at ih
    rcases List.mem_cons.1 h with rfl | h
    · intro hmem
      rcases List.mem_cons.1 hmem with heq | hmem
      · exact hc heq.symm
      · exact ih List.mem_cons_self hmem
    · exact ih (List.mem_cons_of_mem _ h)
  | case4 c rest hc hparts ih =>
    intro hmem
    rw [List.mem_singleton.1 h] at hmem
    exact hc (List.mem_singleton.1 hmem).symm

section Joining

variable {other : Path}

/-- What begins at the root says so in front. -/
theorem not_isAbsolute_of_lead? (h : lead? other.parts = none) : other.isAbsolute = false := by
  rw [isAbsolute, decide_eq_false_iff_not]
  intro hhead
  obtain ⟨rest, htext⟩ := List.head?_eq_some_iff.1 hhead
  have hsome : split rest ≠ [] := by
    rw [split_eq_splitOn]
    exact List.splitOn_ne_nil '/' rest
  rw [parts, htext, split, lead?_cons, if_pos ⟨rfl, hsome⟩] at h
  cases h

theorem text_join (p : Path) (h : other.isAbsolute = false) :
    (p.join other).text =
      if p.text = "" ∨ p.text.toList.getLast? = some '/' then p.text ++ other.text
      else p.text ++ "/" ++ other.text := by
  simp only [join, h, Bool.false_eq_true, if_false]
  split <;> rfl

/-- What is joined adds its parts to the stem. -/
theorem parts_join_eq (p : Path) (h : other.isAbsolute = false) :
    (p.join other).parts = p.stem ++ other.parts := by
  rw [parts_eq_splitOn, text_join p h, parts_eq_splitOn other]
  unfold stem
  split
  · next hopen =>
    rcases hopen with hempty | hopen
    · simp [parts, hempty, split]
    · obtain ⟨text, htext, hparts⟩ := parts_of_open hopen
      rw [hparts, List.dropLast_concat, String.toList_append, htext, List.append_assoc]
      rw [List.singleton_append, List.splitOn_append_cons_self]
  · rw [parts_eq_splitOn]
    simp [List.splitOn_append_cons_self]

/-- The parts that stay in front begin as the path does. -/
theorem lead?_stem_append (p : Path) {more : List (List Char)} (hsome : more ≠ [])
    (h : lead? more = none) : lead? (p.stem ++ more) = lead? p.parts := by
  unfold stem
  split
  · next hopen =>
    rcases hopen with hempty | hopen
    · simp [parts, hempty, split, lead?_cons, h]
    · obtain ⟨text, -, hparts⟩ := parts_of_open hopen
      obtain ⟨part, parts, hcut⟩ := List.exists_cons_of_ne_nil (List.splitOn_ne_nil '/' text)
      rw [hparts, List.dropLast_concat, hcut, List.cons_append, List.cons_append]
      simp [lead?_cons, hsome]
  -- the whole path stays in front; an empty first part is that of the root
  · next hclosed =>
    have hparts := parts_ne_singleton_nil (p := p) fun hempty => hclosed (.inl hempty)
    obtain ⟨part, parts, hcut⟩ := List.exists_cons_of_ne_nil
      (List.splitOn_ne_nil '/' p.text.toList)
    rw [← parts_eq_splitOn] at hcut
    rw [hcut] at hparts
    have hmore : part = [] → parts ≠ [] := by
      rintro rfl rfl
      exact hparts rfl
    by_cases hpart : part = [] <;> simp_all [lead?_cons]

/-- The components of a path and what goes on from it. -/
theorem components_join_eq (p : Path) (h : lead? other.parts = none) :
    (p.join other).components = p.components ++ other.components := by
  have hsome : other.parts ≠ [] := by
    rw [parts_eq_splitOn]
    exact List.splitOn_ne_nil '/' other.text.toList
  unfold components
  rw [parts_join_eq p (not_isAbsolute_of_lead? h), lead?_stem_append p hsome h, h,
    List.filterMap_append, filterMap_stem ofPart? rfl]
  simp

end Joining

/-! ## One name further -/

section OneName

variable {name : String}

/-- A name is one part. -/
theorem parts_name (h : IsName name) : (Path.mk name).parts = [name.toList] := by
  rw [parts_eq_splitOn]
  exact List.splitOn_eq_singleton h.no_separator

/-- A name says nothing but itself. -/
theorem lead?_name_cons (h : IsName name) (rest : List (List Char)) :
    lead? (name.toList :: rest) = none := by
  have hname : name.toList ≠ [] := by simpa using h.nonempty
  have hcurrent : name.toList ≠ ['.'] := fun heq => h.not_current (String.toList_inj.1 heq)
  rw [lead?_cons, if_neg fun hnone => hname hnone.1, if_neg hcurrent]

theorem join_text (p : Path) (h : IsName name) :
    (p.join ⟨name⟩).text =
      if p.text = "" ∨ p.text.toList.getLast? = some '/' then p.text ++ name
      else p.text ++ "/" ++ name :=
  text_join p h.not_isAbsolute

/-- Joining a name adds one part to the stem. -/
theorem parts_join (p : Path) (h : IsName name) :
    (p.join ⟨name⟩).parts = p.stem ++ [name.toList] := by
  rw [parts_join_eq p h.not_isAbsolute, parts_name h]

/-- A path with a name at its end does not end in a separator. -/
theorem join_ends (p : Path) (h : IsName name) :
    ∃ text last, (p.join ⟨name⟩).text.toList = text ++ [last] ∧ last ≠ '/' := by
  have hname : name.toList ≠ [] := by simpa using h.nonempty
  obtain ⟨front, last, hlast⟩ := List.eq_nil_or_concat name.toList |>.resolve_left hname
  have hsolid : last ≠ '/' := fun heq => h.no_separator (by simp [hlast, heq])
  rw [join_text p h]
  split
  · exact ⟨p.text.toList ++ front, last, by simp [hlast], hsolid⟩
  · exact ⟨p.text.toList ++ '/' :: front, last, by simp [hlast], hsolid⟩

/-- A name does not change where a path begins. -/
theorem isAbsolute_join (p : Path) (h : IsName name) :
    (p.join ⟨name⟩).isAbsolute = p.isAbsolute := by
  have hname : name.toList.head? ≠ some '/' :=
    fun heq => h.no_separator (List.mem_of_mem_head? (by simp [heq]))
  unfold isAbsolute
  rw [join_text p h]
  by_cases hempty : p.text = ""
  · simp [hempty, hname]
  · obtain ⟨c, rest, htext⟩ := List.exists_cons_of_ne_nil (l := p.text.toList) (by simpa using hempty)
    split <;> simp [htext]

theorem stem_join (p : Path) (h : IsName name) :
    (p.join ⟨name⟩).stem = p.stem ++ [name.toList] := by
  obtain ⟨text, last, htext, hsolid⟩ := join_ends p h
  have hclosed : ¬((p.join ⟨name⟩).text = "" ∨
      (p.join ⟨name⟩).text.toList.getLast? = some '/') := by
    rw [← String.toList_inj, htext]
    simp [hsolid]
  unfold stem
  rw [if_neg hclosed]
  exact parts_join p h

/-- The components of a path and one name further. -/
theorem components_join (p : Path) (h : IsName name) :
    (p.join ⟨name⟩).components = p.components ++ [.name name] := by
  have hlead : lead? (Path.mk name).parts = none := by
    rw [parts_name h, lead?_name_cons h]
  have hname : (Path.mk name).components = [.name name] := by
    unfold components
    rw [hlead, parts_name h]
    simp [h.ofPart?_eq]
  rw [components_join_eq p hlead, hname]

/-- The last component of a path that ends in a name is that name. -/
theorem fileName?_join (p : Path) (h : IsName name) : (p.join ⟨name⟩).fileName? = some name := by
  unfold fileName?
  rw [components_join p h]
  simp

end OneName

/-! ## Many names further -/

/-- The path that goes down from another through some names. -/
def below (p : Path) (names : List String) : Path :=
  names.foldl (fun p name => p.join ⟨name⟩) p

@[simp] theorem below_nil (p : Path) : p.below [] = p := rfl

@[simp] theorem below_cons (p : Path) (name : String) (names : List String) :
    p.below (name :: names) = (p.join ⟨name⟩).below names := rfl

@[simp] theorem below_concat (p : Path) (names : List String) (name : String) :
    p.below (names ++ [name]) = (p.below names).join ⟨name⟩ := by
  simp [below]

/-- A name and more behind a separator lead one name further, and on from
    there. -/
theorem join_join (p : Path) {name : String} (h : IsName name) {rest : String}
    (hrest : (Path.mk rest).isAbsolute = false) :
    p.join ⟨name ++ "/" ++ rest⟩ = (p.join ⟨name⟩).join ⟨rest⟩ := by
  have hlong : (Path.mk (name ++ "/" ++ rest)).isAbsolute = false := by
    rw [String.append_assoc]
    exact h.not_isAbsolute_append _
  -- the path with the name does not end in a separator
  obtain ⟨text, last, htext, hsolid⟩ := join_ends p h
  have hclosed : ¬((p.join ⟨name⟩).text = "" ∨
      (p.join ⟨name⟩).text.toList.getLast? = some '/') := by
    rw [← String.toList_inj, htext]
    simp [hsolid]
  calc p.join ⟨name ++ "/" ++ rest⟩
      = ⟨(p.join ⟨name⟩).text ++ "/" ++ rest⟩ := by
        simp only [join, hlong, h.not_isAbsolute, Bool.false_eq_true, if_false]
        split <;> simp only [String.append_assoc]
    _ = (p.join ⟨name⟩).join ⟨rest⟩ := by
        generalize p.join ⟨name⟩ = q at hclosed
        simp only [join, hrest, Bool.false_eq_true, if_false, if_neg hclosed]

/-- Joining names with separators between them is going down through them. -/
theorem join_intercalate (p : Path) {names : List String} (hsome : names ≠ [])
    (h : ∀ name ∈ names, IsName name) : p.join ⟨"/".intercalate names⟩ = p.below names := by
  induction names generalizing p with
  | nil => exact absurd rfl hsome
  | cons name names ih =>
    have hname := h name List.mem_cons_self
    have hnames : ∀ other ∈ names, IsName other :=
      fun other hother => h other (List.mem_cons_of_mem name hother)
    cases names with
    | nil => rfl
    | cons next names =>
      have hnext := hnames next List.mem_cons_self
      have hrest : (Path.mk ("/".intercalate (next :: names))).isAbsolute = false := by
        cases names with
        | nil => exact hnext.not_isAbsolute
        | cons other names =>
          rw [String.intercalate_cons_cons, String.append_assoc]
          exact hnext.not_isAbsolute_append _
      rw [String.intercalate_cons_cons, join_join p hname hrest, below_cons,
        ih _ (List.cons_ne_nil _ _) hnames]

/-- The components of a path and names further down. -/
theorem components_below (p : Path) {names : List String} (h : ∀ name ∈ names, IsName name) :
    (p.below names).components = p.components ++ names.map .name := by
  induction names generalizing p with
  | nil => simp
  | cons name names ih =>
    have hname := h name List.mem_cons_self
    have hnames : ∀ other ∈ names, IsName other := fun other hother =>
      h other (List.mem_cons_of_mem name hother)
    simp [ih _ hnames, components_join p hname]

/-- The names stand behind the stem, each as a part. -/
theorem parts_below (p : Path) {names : List String} (hsome : names ≠ [])
    (h : ∀ name ∈ names, IsName name) :
    (p.below names).parts = p.stem ++ names.map String.toList := by
  induction names generalizing p with
  | nil => exact absurd rfl hsome
  | cons name names ih =>
    have hname := h name List.mem_cons_self
    cases names with
    | nil => exact parts_join p hname
    | cons next names =>
      have hnames : ∀ other ∈ next :: names, IsName other := fun other hother =>
        h other (List.mem_cons_of_mem name hother)
      rw [below_cons, ih _ (by simp) hnames]
      simp [stem_join p hname]

/-- Names as parts say themselves. -/
theorem filterMap_ofPart? {names : List String} (h : ∀ name ∈ names, IsName name) :
    (names.map String.toList).filterMap ofPart? = names.map .name := by
  induction names with
  | nil => rfl
  | cons name names ih =>
    rw [List.map_cons, List.filterMap_cons_some (h name List.mem_cons_self).ofPart?_eq,
      ih fun other hother => h other (List.mem_cons_of_mem _ hother)]
    rfl

/-- The components of names with separators between them are the names. -/
theorem components_intercalate {names : List String} (h : ∀ name ∈ names, IsName name) :
    (Path.mk ("/".intercalate names)).components = names.map .name := by
  cases names with
  | nil => rfl
  | cons name rest =>
    have hparts : (Path.mk ("/".intercalate (name :: rest))).parts
        = (name :: rest).map String.toList := by
      unfold parts
      rw [String.toList_intercalate]
      refine split_unsplit (by simp) ?_
      intro part hpart
      obtain ⟨other, hother, rfl⟩ := List.mem_map.1 hpart
      exact (h other hother).no_separator
    have hlead : lead? ((name :: rest).map String.toList) = none :=
      lead?_name_cons (h name List.mem_cons_self) _
    unfold components
    rw [hparts, hlead, filterMap_ofPart? h]
    rfl

/-! ## Taking the directory off again -/

/-- A part that is not hollow says something. -/
theorem exists_ofPart? {part : List Char} (h : isHollow part = false) :
    ∃ component, ofPart? part = some component := by
  unfold ofPart?
  rw [h]
  by_cases hparent : part = ['.', '.'] <;> simp [hparent]

/-- Where no part is hollow there is none to drop. -/
theorem dropWhile_of_solid {parts : List (List Char)}
    (h : ∀ part ∈ parts, isHollow part = false) : parts.dropWhile isHollow = parts := by
  cases parts with
  | nil => rfl
  | cons part parts => simp [h part List.mem_cons_self]

/-- Where no part is hollow there is no hollow end. -/
theorem dropHollowEnd_of_solid {parts : List (List Char)}
    (h : ∀ part ∈ parts, isHollow part = false) : dropHollowEnd parts = parts := by
  unfold dropHollowEnd
  rw [dropWhile_of_solid fun part hpart => h part (List.mem_reverse.1 hpart)]
  exact List.reverse_reverse parts

/-- Dropping as many solid parts as there are in front leaves what is behind,
    up to hollow parts. -/
theorem dropSolid_append (front rest : List (List Char)) :
    (dropSolid (front.filterMap ofPart?).length (front ++ rest)).dropWhile isHollow
      = rest.dropWhile isHollow := by
  induction front with
  | nil => simp [dropSolid]
  | cons part front ih =>
    -- a hollow part is dropped without being counted
    by_cases hpart : isHollow part = true
    · have hnone : ofPart? part = none := by simp [ofPart?, hpart]
      rw [List.filterMap_cons_none hnone, List.cons_append]
      cases hcount : (front.filterMap ofPart?).length with
      | zero =>
        rw [hcount, dropSolid] at ih
        rw [dropSolid, List.dropWhile_cons_of_pos hpart, ih]
      | succ count =>
        rw [hcount] at ih
        rw [dropSolid, if_pos hpart, ih]
    · obtain ⟨component, hsome⟩ := exists_ofPart? (Bool.not_eq_true _ ▸ hpart)
      rw [List.filterMap_cons_some hsome, List.length_cons, List.cons_append, dropSolid,
        if_neg hpart, ih]

/-- A path that is not empty has a component. -/
theorem components_ne_nil {p : Path} (h : p.text ≠ "") : p.components ≠ [] := by
  have hsome := parts_ne_singleton_nil h
  obtain ⟨part, parts, hcut⟩ := List.exists_cons_of_ne_nil
    (List.splitOn_ne_nil '/' p.text.toList)
  rw [← parts_eq_splitOn] at hcut
  unfold components
  rw [hcut, lead?_cons]
  rw [hcut] at hsome
  by_cases hpart : isHollow part = true
  · have hhollow : part = [] ∨ part = ['.'] := by simpa [isHollow] using hpart
    rcases hhollow with rfl | rfl
    · have hmore : parts ≠ [] := fun heq => hsome (by rw [heq])
      simp [hmore]
    · simp
  · obtain ⟨component, hvalue⟩ := exists_ofPart? (Bool.not_eq_true _ ▸ hpart)
    simp [hvalue]

/-- What is left of a path below another without that one: the names. -/
theorem dropComponents_below {p : Path} (hp : p.text ≠ "") {names : List String}
    (hsome : names ≠ []) (h : ∀ name ∈ names, IsName name) :
    (p.below names).dropComponents p.components.length = ⟨"/".intercalate names⟩ := by
  have hcount : p.components.length ≠ 0 := by simpa using components_ne_nil hp
  have hparts := parts_below p hsome h
  have hlead : lead? (p.below names).parts = lead? p.parts := by
    obtain ⟨name, rest, rfl⟩ := List.exists_cons_of_ne_nil hsome
    rw [hparts]
    exact lead?_stem_append p (List.cons_ne_nil _ _) (lead?_name_cons (h name List.mem_cons_self) _)
  -- beside the lead, the components of a path are the solid parts of its stem
  have hsolid : p.components.length - (lead? (p.below names).parts).toList.length
      = (p.stem.filterMap ofPart?).length := by
    rw [hlead, components, filterMap_stem ofPart? rfl, List.length_append]
    omega
  have hnames : ∀ part ∈ names.map String.toList, isHollow part = false := by
    intro part hpart
    obtain ⟨name, hname, rfl⟩ := List.mem_map.1 hpart
    exact (h name hname).not_isHollow
  unfold dropComponents
  rw [if_neg hcount]
  show Path.mk (String.ofList (unsplit (dropHollowEnd ((dropSolid
    (p.components.length - (lead? (p.below names).parts).toList.length)
    (p.below names).parts).dropWhile isHollow)))) = _
  rw [hsolid, hparts, dropSolid_append, dropWhile_of_solid hnames, dropHollowEnd_of_solid hnames]
  congr 1
  rw [← String.toList_inj, String.toList_ofList, String.toList_intercalate]
  rfl

end Path

namespace FilePair

/-- The pair of what lies below the reference root at the end of some names:
    its counterpart goes through the same names below the render root. -/
def below (referenceRoot renderRoot : Path) (names : List String) : FilePair where
  reference := referenceRoot.below names
  generated := renderRoot.join ⟨"/".intercalate names⟩
  relative := ⟨"/".intercalate names⟩

/-- The pair of a path below the reference root is that one. -/
theorem ofReference_below {referenceRoot : Path} (renderRoot : Path)
    (hroot : referenceRoot.text ≠ "") {names : List String} (hsome : names ≠ [])
    (h : ∀ name ∈ names, IsName name) :
    ofReference referenceRoot renderRoot (referenceRoot.below names)
      = .ok (below referenceRoot renderRoot names) := by
  have hprefix : referenceRoot.components.isPrefixOf (referenceRoot.below names).components := by
    rw [Path.components_below referenceRoot h, List.isPrefixOf_iff_prefix]
    exact List.prefix_append _ _
  unfold ofReference Path.stripPrefix?
  rw [if_pos hprefix, Path.dropComponents_below hroot hsome h]
  rfl

end FilePair

end RenderCheck
