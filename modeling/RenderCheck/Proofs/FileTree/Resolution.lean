import RenderCheck.FileTree.Operations
import RenderCheck.Proofs.FileTree.Entries

/-! # Where paths lead

    A path is followed step by step, through directories and links, and only
    its last step may lead to something else. What was taken of a path once it
    has led to a directory (`Leads`) can be forgotten: the rest goes on from
    there, with the links that are left. So a path and a name further leads
    where the name leads from the directory of the path.

    * **Steps of paths**: those of `p.join ⟨name⟩` are those of `p` and one.
    * **Taking steps**: `descendThrough` by its first step.
    * **Directories on the way**: the relation `Leads` and what is left.
    * **Places**: what a path leads to is what lies there. -/

namespace RenderCheck.FileTree

/-! ## Steps of paths -/

/-- The step that a part of a path asks for. -/
def stepOfPart (part : List Char) : Option Component :=
  if part = [] then none
  else if part = ['.'] then some .current
  else if part = ['.', '.'] then some .parent
  else some (.name (String.ofList part))

/-- The steps of a path without the one that an open end asks for. -/
def coreSteps (p : Path) : List Component :=
  (if p.isAbsolute then [.root] else []) ++ p.parts.filterMap stepOfPart

theorem stepsOf_eq (p : Path) :
    stepsOf p = coreSteps p ++ (if p.text.toList.getLast? = some '/' then [.current] else []) :=
  rfl

theorem stepOfPart_of_isName {name : String} (h : IsName name) :
    stepOfPart name.toList = some (.name name) := by
  have hcurrent : name.toList ≠ ['.'] := fun heq => h.not_current (String.toList_inj.1 heq)
  have hparent : name.toList ≠ ['.', '.'] := fun heq => h.not_parent (String.toList_inj.1 heq)
  simp [stepOfPart, h.nonempty, hcurrent, hparent]

/-- One name further is one step further. -/
theorem stepsOf_join (p : Path) {name : String} (h : IsName name) :
    stepsOf (p.join ⟨name⟩) = coreSteps p ++ [.name name] := by
  obtain ⟨text, last, htext, hsolid⟩ := Path.join_ends p h
  rw [stepsOf_eq, htext, coreSteps, coreSteps, Path.isAbsolute_join p h, Path.parts_join p h]
  rw [List.filterMap_append, Path.filterMap_stem stepOfPart rfl]
  simp [stepOfPart_of_isName h, hsolid]

/-- The names among the steps of a path are names. -/
theorem isName_of_mem_stepsOf {p : Path} {text : String} (h : Component.name text ∈ stepsOf p) :
    IsName text := by
  have hmem : Component.name text ∈ p.parts.filterMap stepOfPart := by
    rw [stepsOf_eq, coreSteps] at h
    simp only [List.mem_append] at h
    rcases h with (h | h) | h
    · split at h <;> simp at h
    · exact h
    · split at h <;> simp at h
  obtain ⟨part, hpart, hstep⟩ := List.mem_filterMap.1 hmem
  have hsep := Path.no_separator_of_mem_split hpart
  unfold stepOfPart at hstep
  split at hstep
  · cases hstep
  split at hstep
  · cases hstep
  split at hstep
  · cases hstep
  next hempty hcurrent hparent =>
    obtain rfl : String.ofList part = text := by simpa using hstep
    exact IsName.ofList (by simp [Path.isHollow, hempty, hcurrent]) hparent hsep

/-! ## Taking steps -/

/-- The directory that a step from a directory enters, if it enters one without
    running through a link. -/
def entered? (t : FileTree) (here : Location) : Component → Option Location
  | .root => some []
  | .current => some here
  | .parent => some here.dropLast
  | .name text =>
    if text.utf8ByteSize ≤ nameLimit ∧ t.node? (here ++ [text]) = some .directory then
      some (here ++ [text])
    else none

theorem entered?_name (t : FileTree) (here : Location) (text : String) :
    t.entered? here (.name text) =
      if text.utf8ByteSize ≤ nameLimit ∧ t.node? (here ++ [text]) = some .directory then
        some (here ++ [text])
      else none := rfl

section Descend

variable {t : FileTree} {followLast : Bool} {links : Nat} {here : Location}
  {rest : List Component}

theorem descendThrough_nil :
    t.descendThrough followLast links here [] = .ok ⟨here, some .directory⟩ := by
  cases links <;> rfl

/-- A step into a directory is taken; the rest goes on from there. -/
theorem descendThrough_of_entered? {step : Component} {there : Location}
    (h : t.entered? here step = some there) :
    t.descendThrough followLast links here (step :: rest)
      = t.descendThrough followLast links there rest := by
  cases step with
  | root => cases h; cases links <;> rfl
  | current => cases h; cases links <;> rfl
  | parent => cases h; cases links <;> rfl
  | name text =>
    rw [entered?_name] at h
    split at h
    · next hname =>
      cases h
      have hsize : ¬nameLimit < text.utf8ByteSize := Nat.not_lt.2 hname.1
      cases links <;> simp [descendThrough, descend, hsize, hname.2]
    · cases h

/-- A step that enters no directory is a name too long, or that of something
    else than a directory. -/
theorem descendThrough_of_not_entered (followLast : Bool) (links : Nat) (rest : List Component)
    {step : Component} (h : t.entered? here step = none) :
    ∃ text, step = .name text ∧
      t.descendThrough followLast links here (step :: rest) =
        if nameLimit < text.utf8ByteSize then .error .nameTooLong
        else match t.node? (here ++ [text]) with
          | some (.link target) =>
            if rest = [] && !followLast then .ok ⟨here ++ [text], some (.link target)⟩
            else match links with
              | 0 => .error .tooManyLinks
              | links + 1 => t.descendThrough followLast links here (stepsOf target ++ rest)
          | node =>
            if rest = [] then .ok ⟨here ++ [text], node⟩
            else .error (if node = none then .notFound else .notADirectory) := by
  cases step with
  | root => cases h
  | current => cases h
  | parent => cases h
  | name text =>
    refine ⟨text, rfl, ?_⟩
    -- only a name can fail to be entered
    rw [entered?_name] at h
    split at h
    · cases h
    next hname =>
      by_cases hsize : nameLimit < text.utf8ByteSize
      · cases links <;> simp [descendThrough, descend, hsize]
      · have hnode : t.node? (here ++ [text]) ≠ some .directory := fun hdir =>
          hname ⟨Nat.not_lt.1 hsize, hdir⟩
        rcases hcase : t.node? (here ++ [text]) with - | node
        · cases links <;> simp [descendThrough, descend, hsize, hcase]
        · cases node with
          | directory => exact absurd hcase hnode
          | file content executable => cases links <;> simp [descendThrough, descend, hsize, hcase]
          | link target => cases links <;> simp [descendThrough, descend, hsize, hcase]

/-- A last step to something that is no link leads to what is there. -/
theorem descendThrough_last {text : String} (hsize : text.utf8ByteSize ≤ nameLimit)
    (hnode : ∀ target, t.node? (here ++ [text]) ≠ some (.link target)) :
    t.descendThrough followLast links here [.name text]
      = .ok ⟨here ++ [text], t.node? (here ++ [text])⟩ := by
  cases hstep : t.entered? here (.name text) with
  | some next =>
    rw [descendThrough_of_entered? hstep, descendThrough_nil]
    rw [entered?_name] at hstep
    split at hstep
    · next hdir =>
      cases hstep
      rw [hdir.2]
    · cases hstep
  | none =>
    obtain ⟨text', heq, hsteps⟩ := descendThrough_of_not_entered followLast links [] hstep
    cases heq
    rw [hsteps, if_neg (Nat.not_lt.2 hsize)]
    split
    · next target hlink => exact absurd hlink (hnode target)
    · rfl

theorem descendThrough_tooLong {text : String} (hsize : nameLimit < text.utf8ByteSize) :
    t.descendThrough followLast links here (.name text :: rest) = .error .nameTooLong := by
  cases links <;> simp [descendThrough, descend, hsize]

end Descend

/-! ## Directories on the way -/

/-- Steps that lead from one directory to another, with the number of links
    that may be run through before and after. -/
inductive Leads (t : FileTree) :
    (links : Nat) → Location → List Component → (left : Nat) → Location → Prop where
  /-- No steps lead nowhere else. -/
  | done {links : Nat} {here : Location} : Leads t links here [] links here
  /-- A step into a directory. -/
  | enter {links left : Nat} {here next there : Location} {step : Component}
      {rest : List Component} : t.entered? here step = some next →
      Leads t links next rest left there → Leads t links here (step :: rest) left there
  /-- A step along a link. -/
  | follow {links left : Nat} {here there : Location} {text : String} {target : Path}
      {rest : List Component} : text.utf8ByteSize ≤ nameLimit →
      t.node? (here ++ [text]) = some (.link target) →
      Leads t links here (stepsOf target ++ rest) left there →
      Leads t (links + 1) here (.name text :: rest) left there

/-- The step of a link enters nothing. -/
theorem entered?_of_link {t : FileTree} {here : Location} {text : String} {target : Path}
    (h : t.node? (here ++ [text]) = some (.link target)) :
    t.entered? here (.name text) = none := by
  simp [entered?, h]

/-- Steps that end in a directory lead to it. -/
theorem leads_of_descendThrough {t : FileTree} {links : Nat} {here there : Location}
    {steps : List Component}
    (h : t.descendThrough true links here steps = .ok ⟨there, some .directory⟩) :
    ∃ left, Leads t links here steps left there := by
  -- the first step enters a directory, or is that of a link with one link fewer left
  match steps with
  | [] =>
    rw [descendThrough_nil] at h
    cases h
    exact ⟨links, .done⟩
  | step :: rest =>
    cases hstep : t.entered? here step with
    | some next =>
      rw [descendThrough_of_entered? hstep] at h
      obtain ⟨left, hleads⟩ := leads_of_descendThrough h
      exact ⟨left, .enter hstep hleads⟩
    | none =>
      obtain ⟨text, rfl, heq⟩ := descendThrough_of_not_entered true links rest hstep
      rw [heq] at h
      split at h
      · cases h
      next hsize =>
        split at h
        · next target hnode =>
          cases links with
          | zero => simp at h
          | succ links =>
            replace h : t.descendThrough true links here (stepsOf target ++ rest)
              = .ok ⟨there, some .directory⟩ := by simpa using h
            obtain ⟨left, hleads⟩ := leads_of_descendThrough h
            exact ⟨left, .follow (Nat.not_lt.1 hsize) hnode hleads⟩
        · split at h
          · rename_i node _ _
            obtain ⟨rfl, hdir⟩ : here ++ [text] = there ∧ t.node? (here ++ [text]) = _ := by
              simpa using h
            simp [entered?, hdir, Nat.not_lt.1 hsize] at hstep
          · cases h
termination_by (links, steps.length)

section Leads

variable {t : FileTree} {links left : Nat} {here there : Location} {steps : List Component}

/-- Steps that led to a directory are done; what follows goes on from there. -/
theorem Leads.descendThrough_append (h : Leads t links here steps left there) {followLast : Bool}
    {rest : List Component} (hrest : rest ≠ [] ∨ followLast = true) :
    t.descendThrough followLast links here (steps ++ rest)
      = t.descendThrough followLast left there rest := by
  induction h with
  | done => rfl
  | enter hstep _ ih => rw [List.cons_append, descendThrough_of_entered? hstep, ih]
  | @follow links left here there text target steps hsize hnode _ ih =>
    have hgoes : ¬((steps ++ rest = [] && !followLast) = true) := by
      rcases hrest with hrest | hrest <;> simp [hrest]
    obtain ⟨text', heq, hstep⟩ :=
      descendThrough_of_not_entered followLast (links + 1) (steps ++ rest) (entered?_of_link hnode)
    cases heq
    rw [List.cons_append, hstep, if_neg (Nat.not_lt.2 hsize), hnode]
    simp only [if_neg hgoes]
    rw [← List.append_assoc]
    exact ih

/-- Steps that lead to a directory lead there or to a link if the last link is
    left alone. -/
theorem Leads.descendThrough_false (h : Leads t links here steps left there) :
    t.descendThrough false links here steps = .ok ⟨there, some .directory⟩ ∨
    ∃ location target,
      t.descendThrough false links here steps = .ok ⟨location, some (.link target)⟩ := by
  induction h with
  | done => exact .inl descendThrough_nil
  | enter hstep _ ih =>
    rw [descendThrough_of_entered? hstep]
    exact ih
  | @follow links left here there text target rest hsize hnode _ ih =>
    obtain ⟨text', heq, hstep⟩ :=
      descendThrough_of_not_entered false (links + 1) rest (entered?_of_link hnode)
    cases heq
    rw [hstep, if_neg (Nat.not_lt.2 hsize), hnode]
    by_cases hlast : rest = []
    · exact .inr ⟨here ++ [text], target, by simp [hlast]⟩
    · simpa [hlast] using ih

/-- Steps one after the other lead through a directory between. -/
theorem Leads.split {first second : List Component}
    (h : Leads t links here (first ++ second) left there) :
    ∃ middle between, Leads t links here first middle between ∧
      Leads t middle between second left there := by
  generalize hsteps : first ++ second = steps at h
  induction h generalizing first with
  | done =>
    obtain ⟨rfl, rfl⟩ := List.append_eq_nil_iff.1 hsteps
    exact ⟨_, _, .done, .done⟩
  | enter hstep h ih =>
    rcases List.append_eq_cons_iff.1 hsteps with ⟨rfl, rfl⟩ | ⟨first, rfl, rfl⟩
    · exact ⟨_, _, .done, .enter hstep h⟩
    · obtain ⟨middle, between, hfirst, hsecond⟩ := ih rfl
      exact ⟨middle, between, .enter hstep hfirst, hsecond⟩
  | follow hsize hnode h ih =>
    rcases List.append_eq_cons_iff.1 hsteps with ⟨rfl, rfl⟩ | ⟨first, rfl, rfl⟩
    · exact ⟨_, _, .done, .follow hsize hnode h⟩
    · obtain ⟨middle, between, hfirst, hsecond⟩ := ih (List.append_assoc _ _ _)
      exact ⟨middle, between, .follow hsize hnode hfirst, hsecond⟩

end Leads

/-! ## Locating paths -/

/-- Why the text of a path is refused before any step is taken. -/
def refusal? (p : Path) : Option IoError :=
  if p.text.toList.contains '\x00' then some .nulInPath
  else if p.text = "" then some .notFound
  else if pathLimit ≤ p.text.utf8ByteSize then some .nameTooLong
  else none

theorem locateSteps_eq (t : FileTree) (followLast : Bool) (p : Path) (steps : List Component) :
    t.locateSteps followLast p steps =
      match refusal? p with
      | some error => .error error
      | none => t.descendThrough followLast linkLimit t.workingDir steps := by
  unfold locateSteps refusal?
  split
  · rfl
  split
  · rfl
  split <;> rfl

/-- A path that leads somewhere is not refused, and its steps lead there. -/
theorem locateSteps_eq_ok_iff {t : FileTree} {followLast : Bool} {p : Path}
    {steps : List Component} {place : Place} :
    t.locateSteps followLast p steps = .ok place ↔
      refusal? p = none ∧ t.descendThrough followLast linkLimit t.workingDir steps = .ok place := by
  rw [locateSteps_eq]
  cases refusal? p <;> simp

/-- An empty path leads nowhere. -/
theorem ne_empty_of_locate {t : FileTree} {followLast : Bool} {p : Path} {place : Place}
    (h : t.locate followLast p = .ok place) : p.text ≠ "" := by
  obtain ⟨hallowed, -⟩ := locateSteps_eq_ok_iff.1 h
  intro hempty
  simp [refusal?, hempty] at hallowed

section Below

variable {t : FileTree} {p : Path} {dir : Location}

/-- The steps of a path that leads to a directory lead there without the one
    for its open end. -/
theorem leads_of_locate (h : t.locate true p = .ok ⟨dir, some .directory⟩) :
    ∃ left, Leads t linkLimit t.workingDir (coreSteps p) left dir := by
  obtain ⟨-, hsteps⟩ := locateSteps_eq_ok_iff.1 h
  obtain ⟨left, hleads⟩ := leads_of_descendThrough hsteps
  rw [stepsOf_eq] at hleads
  split at hleads
  · obtain ⟨middle, between, hcore, hend⟩ := hleads.split
    cases hend with
    | enter hstep hrest =>
      cases hstep
      cases hrest
      exact ⟨_, hcore⟩
  · rw [List.append_nil] at hleads
    exact ⟨left, hleads⟩

/-- A path and a name further leads where the name leads from the directory
    of the path. -/
theorem locate_join (h : t.locate true p = .ok ⟨dir, some .directory⟩) :
    ∃ left, ∀ name followLast, IsName name →
      t.locate followLast (p.join ⟨name⟩) =
        match refusal? (p.join ⟨name⟩) with
        | some error => .error error
        | none => t.descendThrough followLast left dir [.name name] := by
  obtain ⟨left, hleads⟩ := leads_of_locate h
  refine ⟨left, ?_⟩
  intro name followLast hname
  rw [locate, locateSteps_eq, stepsOf_join p hname, hleads.descendThrough_append (.inl (by simp))]

/-- If nothing but a link is at a name, then the name leads there. -/
theorem locate_join_of_not_link (h : t.locate true p = .ok ⟨dir, some .directory⟩) {name : String}
    (hname : IsName name) (hnode : ∀ target, t.node? (dir ++ [name]) ≠ some (.link target))
    (followLast : Bool) :
    t.locate followLast (p.join ⟨name⟩) =
      match refusal? (p.join ⟨name⟩) with
      | some error => .error error
      | none =>
        if nameLimit < name.utf8ByteSize then .error .nameTooLong
        else .ok ⟨dir ++ [name], t.node? (dir ++ [name])⟩ := by
  obtain ⟨left, hlocate⟩ := locate_join h
  rw [hlocate name followLast hname]
  cases refusal? (p.join ⟨name⟩) with
  | some error => rfl
  | none =>
    show t.descendThrough followLast left dir [.name name]
      = if nameLimit < name.utf8ByteSize then .error .nameTooLong
        else .ok ⟨dir ++ [name], t.node? (dir ++ [name])⟩
    split
    · next hsize => exact descendThrough_tooLong hsize
    · next hsize => exact descendThrough_last (Nat.not_lt.1 hsize) hnode

end Below

/-- Where paths lead is decided by the working directory and what lies where;
    the order of the entries plays no part. -/
theorem locate_congr {t t' : FileTree} (hworking : t.workingDir = t'.workingDir)
    (hnode : ∀ location, t.node? location = t'.node? location) (followLast : Bool) (p : Path) :
    t.locate followLast p = t'.locate followLast p := by
  -- first between two links, then for any number of them
  have hdescend (onLink : Location → List Component → Except IoError Place) (here : Location)
      (steps : List Component) :
      t.descend followLast onLink here steps = t'.descend followLast onLink here steps := by
    induction steps generalizing here with
    | nil => rfl
    | cons step rest ih => cases step <;> simp only [descend, ih, hnode]
  have hthrough (links : Nat) (here : Location) (steps : List Component) :
      t.descendThrough followLast links here steps
        = t'.descendThrough followLast links here steps := by
    induction links generalizing here steps with
    | zero => exact hdescend _ here steps
    | succ links ih =>
      have hlinks : t.descendThrough followLast links = t'.descendThrough followLast links := by
        funext here steps
        exact ih here steps
      show t.descend followLast (t.descendThrough followLast links) here steps = _
      rw [hlinks]
      exact hdescend _ here steps
  unfold locate
  rw [locateSteps_eq, locateSteps_eq, hworking, hthrough]

/-! ## Places -/

/-- What a path leads to is what lies there, and there is a directory around
    it. -/
structure Place.Fits (t : FileTree) (place : Place) : Prop where
  /-- The entry is the one at the location. -/
  node_eq : place.node? = t.node? place.location
  /-- It is a directory, or a name in one. -/
  inside : place.node? = some .directory ∨ ∃ dir name, place.location = dir ++ [name] ∧
    t.node? dir = some .directory ∧ IsName name

/-- A directory that a step enters is one. -/
theorem Sound.node?_of_entered? {t : FileTree} (ht : t.Sound) {here next : Location}
    (hhere : t.node? here = some .directory) {step : Component}
    (hstep : t.entered? here step = some next) : t.node? next = some .directory := by
  cases step with
  | root => cases hstep; rfl
  | current => cases hstep; exact hhere
  | parent => cases hstep; exact ht.node?_dropLast hhere
  | name text =>
    rw [entered?_name] at hstep
    split at hstep
    · next hdir =>
      cases hstep
      exact hdir.2
    · cases hstep

/-- Steps from a directory lead to what lies there. -/
theorem fits_of_descendThrough {t : FileTree} (ht : t.Sound) {followLast : Bool} {links : Nat}
    {here : Location} (hhere : t.node? here = some .directory) {steps : List Component}
    (hnames : ∀ text, .name text ∈ steps → IsName text) {place : Place}
    (h : t.descendThrough followLast links here steps = .ok place) : place.Fits t := by
  match steps with
  | [] =>
    rw [descendThrough_nil] at h
    cases h
    exact ⟨hhere.symm, .inl rfl⟩
  | step :: rest =>
    have hrest : ∀ text, .name text ∈ rest → IsName text := fun text hmem =>
      hnames text (List.mem_cons_of_mem _ hmem)
    cases hstep : t.entered? here step with
    -- a directory is entered, and the rest of the steps begins there
    | some next =>
      rw [descendThrough_of_entered? hstep] at h
      exact fits_of_descendThrough ht (ht.node?_of_entered? hhere hstep) hrest h
    | none =>
      -- else the name is the last step, or a link whose steps come first
      obtain ⟨text, rfl, heq⟩ := descendThrough_of_not_entered followLast links rest hstep
      have hname : IsName text := hnames text List.mem_cons_self
      rw [heq] at h
      split at h
      · cases h
      split at h
      · next target hnode =>
        split at h
        · cases h
          exact ⟨hnode.symm, .inr ⟨here, text, rfl, hhere, hname⟩⟩
        · cases links with
          | zero => cases h
          | succ links =>
            refine fits_of_descendThrough ht hhere (fun other hmem => ?_) h
            rcases List.mem_append.1 hmem with hmem | hmem
            · exact isName_of_mem_stepsOf hmem
            · exact hrest other hmem
      · split at h
        · cases h
          exact ⟨rfl, .inr ⟨here, text, rfl, hhere, hname⟩⟩
        · cases h
termination_by (links, steps.length)

/-- A path leads to what lies there. -/
theorem Sound.fits_of_locateSteps {t : FileTree} (ht : t.Sound) {followLast : Bool} {p : Path}
    {steps : List Component} (hnames : ∀ text, .name text ∈ steps → IsName text) {place : Place}
    (h : t.locateSteps followLast p steps = .ok place) : place.Fits t :=
  fits_of_descendThrough ht ht.working hnames (locateSteps_eq_ok_iff.1 h).2

theorem Sound.fits_of_locate {t : FileTree} (ht : t.Sound) {followLast : Bool} {p : Path}
    {place : Place} (h : t.locate followLast p = .ok place) : place.Fits t :=
  ht.fits_of_locateSteps (fun _ => isName_of_mem_stepsOf) h

/-! ## Operations by place -/

section Operations

variable {t : FileTree} {p : Path}

theorem inspect_eq (t : FileTree) (followLast : Bool) (p : Path) :
    t.inspect followLast p = (t.locate followLast p).bind fun place =>
      match place.node? with
      | some node => .ok node
      | none => .error .notFound := by
  unfold inspect
  cases t.locate followLast p with
  | error error => rfl
  | ok place => rcases place with ⟨location, - | node⟩ <;> rfl

theorem listDir_eq (t : FileTree) (p : Path) :
    t.listDir p = (t.locate true p).bind fun place =>
      match place.node? with
      | some .directory => .ok (t.children place.location)
      | some _ => .error .notADirectory
      | none => .error .notFound := by
  unfold listDir
  cases t.locate true p with
  | error error => rfl
  | ok place => rcases place with ⟨location, - | - | - | -⟩ <;> rfl

/-- A path leads to a directory if its place is one. -/
theorem isDir_iff : t.isDir p = true ↔ ∃ dir, t.locate true p = .ok ⟨dir, some .directory⟩ := by
  unfold isDir
  rw [inspect_eq]
  rcases hplace : t.locate true p with error | ⟨location, - | node⟩
  · simp [Except.bind]
  · simp [Except.bind]
  · cases node <;> simp [Except.bind, Node.isDirectory]

/-- A path that leads to a directory is that of a directory, or of a link. -/
theorem inspect_false_of_locate {dir : Location}
    (h : t.locate true p = .ok ⟨dir, some .directory⟩) :
    t.inspect true p = .ok .directory ∧
      (t.inspect false p = .ok .directory ∨
        ∃ target, t.inspect false p = .ok (.link target)) := by
  obtain ⟨hallowed, hsteps⟩ := locateSteps_eq_ok_iff.1 h
  obtain ⟨left, hleads⟩ := leads_of_descendThrough hsteps
  refine ⟨by rw [inspect_eq, h]; rfl, ?_⟩
  rw [inspect_eq, locate, locateSteps_eq, hallowed]
  rcases hleads.descendThrough_false with hdir | ⟨location, target, hlink⟩
  · exact .inl (by simp only [hdir]; rfl)
  · exact .inr ⟨target, by simp only [hlink]; rfl⟩

/-- What is listed are the entries of a directory. -/
theorem listDir_eq_ok_iff {entries : List (String × Node)} :
    t.listDir p = .ok entries ↔
      ∃ dir, t.locate true p = .ok ⟨dir, some .directory⟩ ∧ entries = t.children dir := by
  rw [listDir_eq]
  rcases hplace : t.locate true p with error | ⟨location, - | node⟩
  · simp [Except.bind]
  · simp [Except.bind]
  · cases node <;> simp [Except.bind, eq_comm]

end Operations

end RenderCheck.FileTree
