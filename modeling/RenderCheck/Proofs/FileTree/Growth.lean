import RenderCheck.Proofs.FileTree.Resolution

/-! # Trees that grow

    Writing files and creating directories takes nothing away: a directory
    stays one, a link leads where it led, and a file stays a file though its
    bytes may change. In a tree that grew like this a path still leads where it
    led before (`Grows.locate`).

    * **Growth** and how single entries grow a tree.
    * **Writing a file** puts it where its path leads.
    * **Creating directories** adds directories and nothing else. -/

namespace RenderCheck.FileTree

/-! ## Growth -/

/-- Everything in the first tree is in the second one, and is of the same
    kind; the second one has no other links. -/
structure Grows (t t' : FileTree) : Prop where
  /-- Relative paths start in the same place. -/
  working : t'.workingDir = t.workingDir
  /-- Directories stay. -/
  directory {location : Location} :
    t.node? location = some .directory → t'.node? location = some .directory
  /-- Links stay, and there are no new ones. -/
  link {location : Location} {target : Path} :
    t'.node? location = some (.link target) ↔ t.node? location = some (.link target)
  /-- Files stay files that can be run or not. -/
  file {location : Location} {content : Content} {executable : Bool} :
    t.node? location = some (.file content executable) →
      ∃ content', t'.node? location = some (.file content' executable)

namespace Grows

variable {t t' t'' : FileTree}

theorem refl (t : FileTree) : Grows t t :=
  ⟨rfl, id, Iff.rfl, fun h => ⟨_, h⟩⟩

theorem trans (h : Grows t t') (h' : Grows t' t'') : Grows t t'' := by
  refine ⟨h'.working.trans h.working, h'.directory ∘ h.directory, h'.link.trans h.link, ?_⟩
  intro location content executable hfile
  obtain ⟨content', hfile'⟩ := h.file hfile
  exact h'.file hfile'

/-- A step into a directory still enters it. -/
theorem entered? (h : Grows t t') {here next : Location} {step : Component}
    (hstep : t.entered? here step = some next) : t'.entered? here step = some next := by
  cases step with
  | name text =>
    rw [entered?_name] at hstep ⊢
    split at hstep
    · next hdir => rw [if_pos ⟨hdir.1, h.directory hdir.2⟩, ← hstep]
    · cases hstep
  | _ => exact hstep

/-- Steps lead where they led. -/
theorem descendThrough (h : Grows t t') (ht : t.Sound) {followLast : Bool} {links : Nat}
    {here : Location} (hhere : t.node? here = some .directory) {steps : List Component}
    {place : Place} (hplace : t.descendThrough followLast links here steps = .ok place) :
    t'.descendThrough followLast links here steps
      = .ok ⟨place.location, t'.node? place.location⟩ := by
  -- by recursion as paths are followed: a link costs one of `links`, a directory a step
  match steps with
  | [] =>
    rw [descendThrough_nil] at hplace ⊢
    cases hplace
    rw [h.directory hhere]
  | step :: rest =>
    cases hstep : t.entered? here step with
    | some next =>
      rw [descendThrough_of_entered? hstep] at hplace
      rw [descendThrough_of_entered? (h.entered? hstep)]
      exact h.descendThrough ht (ht.node?_of_entered? hhere hstep) hplace
    | none =>
      obtain ⟨text, rfl, heq⟩ := descendThrough_of_not_entered followLast links rest hstep
      rw [heq] at hplace
      split at hplace
      · cases hplace
      next hsize =>
        split at hplace
        · next target hnode =>
          have hnode' := h.link.2 hnode
          obtain ⟨text', heq', hsteps⟩ :=
            descendThrough_of_not_entered followLast links rest (entered?_of_link hnode')
          cases heq'
          rw [hsteps, if_neg hsize, hnode']
          split at hplace
          · next hlast =>
            cases hplace
            simp [hlast, hnode']
          · next hgoes =>
            simp only [if_neg hgoes]
            cases links with
            | zero => cases hplace
            | succ links => exact h.descendThrough ht hhere hplace
        · next hnode =>
          split at hplace
          · next hlast =>
            cases hplace
            subst hlast
            exact descendThrough_last (Nat.not_lt.1 hsize) fun target hlink =>
              hnode target (h.link.1 hlink)
          · cases hplace
termination_by (links, steps.length)

/-- A path leads where it led. -/
theorem locate (h : Grows t t') (ht : t.Sound) {followLast : Bool} {p : Path} {place : Place}
    (hplace : t.locate followLast p = .ok place) :
    t'.locate followLast p = .ok ⟨place.location, t'.node? place.location⟩ := by
  obtain ⟨hallowed, hsteps⟩ := locateSteps_eq_ok_iff.1 hplace
  refine locateSteps_eq_ok_iff.2 ⟨hallowed, ?_⟩
  rw [h.working]
  exact h.descendThrough ht ht.working hsteps

/-- A path that led to a directory leads to one. -/
theorem isDir (h : Grows t t') (ht : t.Sound) {p : Path} (hdir : t.isDir p = true) :
    t'.isDir p = true := by
  obtain ⟨location, hplace⟩ := isDir_iff.1 hdir
  refine isDir_iff.2 ⟨location, ?_⟩
  rw [h.locate ht hplace, h.directory (ht.fits_of_locate hplace).node_eq.symm]

/-- A file written where nothing was, or over another that can be run as it
    can, grows the tree. -/
theorem put_file {location : Location} (hroot : location ≠ []) (content : Content)
    {executable : Bool} (hbefore : t.node? location = none ∨
      ∃ content', t.node? location = some (.file content' executable)) :
    Grows t (t.put location (.file content executable)) := by
  refine ⟨rfl, ?_, ?_, ?_⟩
  · intro other hdir
    have hne : other ≠ location := by
      rintro rfl
      rcases hbefore with hnone | ⟨_, hold⟩ <;> simp_all
    simp [hroot, hne, hdir]
  · intro other target
    by_cases hother : other = location
    · subst hother
      rcases hbefore with hnone | ⟨_, hold⟩ <;> simp_all
    · simp [hroot, hother]
  · intro other content' executable' hfile
    rw [node?_put hroot]
    by_cases hother : other = location
    · subst hother
      rcases hbefore with hnone | ⟨_, hold⟩
      · rw [hnone] at hfile
        cases hfile
      · rw [hold] at hfile
        cases hfile
        exact ⟨content, by rw [if_pos rfl]⟩
    · exact ⟨content', by rw [if_neg hother, hfile]⟩

end Grows

/-! ## Writing a file -/

/-- A tree in which a path leads to a file with certain bytes, and everything
    elsewhere is as it was. -/
structure Written (t : FileTree) (p : Path) (content : Content) (t' : FileTree) : Prop where
  /-- Nothing is taken away. -/
  grows : Grows t t'
  /-- The tree stays a tree. -/
  sound : t'.Sound
  /-- The file is where the path leads, and nothing else changed. -/
  file : ∃ location executable, t'.locate true p = .ok ⟨location, some (.file content executable)⟩ ∧
    t'.node? location = some (.file content executable) ∧
    ∀ other, other ≠ location → t'.node? other = t.node? other

/-- Writing a file does that. -/
theorem Sound.written {t t' : FileTree} (ht : t.Sound) {p : Path} {content : Content}
    (h : t.writeFile p content = .ok t') : Written t p content t' := by
  -- a write that works puts a file over nothing or over a file
  have hput : ∃ location node? executable, t.locate true p = .ok ⟨location, node?⟩ ∧
      (node? = none ∨ ∃ content', node? = some (.file content' executable)) ∧
      t' = t.put location (.file content executable) := by
    unfold writeFile at h
    by_cases hopen : p.text.toList.getLast? = some '/'
    · rw [if_pos hopen] at h
      cases hsteps : t.locateSteps false p (stepsOfTarget p) with
      | error error =>
        rw [hsteps] at h
        cases h
      | ok place =>
        rw [hsteps] at h
        cases h
    · rw [if_neg hopen] at h
      cases hplace : t.locate true p with
      | error error =>
        rw [hplace] at h
        cases h
      | ok place =>
        rw [hplace] at h
        obtain ⟨location, node?⟩ := place
        rcases node? with - | ⟨content', executable⟩ | - | target
        · cases h
          exact ⟨location, none, false, rfl, .inl rfl, rfl⟩
        · cases h
          exact ⟨location, _, executable, rfl, .inr ⟨content', rfl⟩, rfl⟩
        · cases h
        · cases h
  obtain ⟨location, node?, executable, hplace, hbefore, rfl⟩ := hput
  have hfits := ht.fits_of_locate hplace
  have hnode : node? = t.node? location := hfits.node_eq
  obtain ⟨dir, name, hlocation, hdir, hname⟩ := hfits.inside.resolve_left (by
    rcases hbefore with rfl | ⟨_, rfl⟩ <;> simp)
  replace hlocation : location = dir ++ [name] := hlocation
  subst hlocation
  rw [hnode] at hbefore
  have hroot : dir ++ [name] ≠ [] := by simp
  have hgrows := Grows.put_file hroot content hbefore
  have hfile : (t.put (dir ++ [name]) (.file content executable)).node? (dir ++ [name])
      = some (.file content executable) := by
    simp
  have hfree : t.node? (dir ++ [name]) ≠ some .directory := by
    rcases hbefore with hbefore | ⟨_, hbefore⟩ <;> simp [hbefore]
  refine ⟨hgrows, ht.put hdir hname hfree, dir ++ [name], executable, ?_, hfile,
    fun other hother => ?_⟩
  · rw [hgrows.locate ht hplace, hfile]
  · simp [hother]

/-! ## Creating directories -/

/-- At a location there is what there was, or a directory where there was
    nothing. -/
def KeepsAt (location : Location) (t t' : FileTree) : Prop :=
  t'.node? location = t.node? location ∨
    t.node? location = none ∧ t'.node? location = some .directory

theorem KeepsAt.trans {location : Location} {t t' t'' : FileTree} (h : KeepsAt location t t')
    (h' : KeepsAt location t' t'') : KeepsAt location t t'' := by
  rcases h with heq | ⟨hnone, hdir⟩
  · rcases h' with heq' | ⟨hnone', hdir'⟩
    · exact .inl (heq'.trans heq)
    · exact .inr ⟨heq ▸ hnone', hdir'⟩
  · rcases h' with heq' | ⟨hnone', -⟩
    · exact .inr ⟨hnone, heq'.trans hdir⟩
    · rw [hdir] at hnone'
      cases hnone'

/-- What was there is there. -/
theorem KeepsAt.node?_of_some {location : Location} {t t' : FileTree} (h : KeepsAt location t t')
    {node : Node} (hnode : t.node? location = some node) : t'.node? location = some node := by
  rcases h with heq | ⟨hnone, -⟩
  · exact heq.trans hnode
  · rw [hnone] at hnode
    cases hnode

/-- The second tree has more directories than the first, and nothing else is
    different. -/
structure AddsDirectories (t t' : FileTree) : Prop where
  working : t'.workingDir = t.workingDir
  keeps (location : Location) : KeepsAt location t t'

namespace AddsDirectories

variable {t t' t'' : FileTree}

theorem refl (t : FileTree) : AddsDirectories t t :=
  ⟨rfl, fun _ => .inl rfl⟩

theorem trans (h : AddsDirectories t t') (h' : AddsDirectories t' t'') : AddsDirectories t t'' :=
  ⟨h'.working.trans h.working, fun location => (h.keeps location).trans (h'.keeps location)⟩

/-- What is not a directory is what it was. -/
theorem node?_of_ne (h : AddsDirectories t t') {location : Location}
    (hplain : t'.node? location ≠ some .directory) : t.node? location = t'.node? location := by
  rcases h.keeps location with heq | ⟨-, hdir⟩
  · exact heq.symm
  · exact absurd hdir hplain

/-- What was there is there. -/
theorem node?_of_some (h : AddsDirectories t t') {location : Location} {node : Node}
    (hnode : t.node? location = some node) : t'.node? location = some node :=
  (h.keeps location).node?_of_some hnode

theorem grows (h : AddsDirectories t t') : Grows t t' := by
  refine ⟨h.working, h.node?_of_some, fun {location target} => ⟨fun hlink => ?_, h.node?_of_some⟩,
    fun {location content executable} hfile => ⟨content, h.node?_of_some hfile⟩⟩
  rw [h.node?_of_ne (by simp [hlink]), hlink]

end AddsDirectories

/-- Creating a directory adds it. -/
theorem Sound.makeDir {t t' : FileTree} (ht : t.Sound) {p : Path} (h : t.makeDir p = .ok t') :
    AddsDirectories t t' ∧ t'.Sound := by
  have hput : ∃ location, t.locateSteps false p (stepsOfTarget p) = .ok ⟨location, none⟩ ∧
      t' = t.put location .directory := by
    unfold FileTree.makeDir at h
    cases hplace : t.locateSteps false p (stepsOfTarget p) with
    | error error =>
      rw [hplace] at h
      cases h
    | ok place =>
      rw [hplace] at h
      obtain ⟨location, - | node⟩ := place
      · cases h
        exact ⟨location, rfl, rfl⟩
      · cases h
  obtain ⟨location, hplace, rfl⟩ := hput
  -- the last step may be left out, so names are those of the steps that remain
  have hnames : ∀ text, .name text ∈ stepsOfTarget p → IsName text := by
    intro text hmem
    unfold stepsOfTarget at hmem
    split at hmem
    · exact isName_of_mem_stepsOf (List.dropLast_subset _ hmem)
    · exact isName_of_mem_stepsOf hmem
  have hfits := ht.fits_of_locateSteps hnames hplace
  have hnode : none = t.node? location := hfits.node_eq
  obtain ⟨dir, name, hlocation, hdir, hname⟩ := hfits.inside.resolve_left (by simp)
  replace hlocation : location = dir ++ [name] := hlocation
  subst hlocation
  refine ⟨⟨rfl, fun other => ?_⟩, ht.put hdir hname (by simp [← hnode])⟩
  unfold KeepsAt
  rw [node?_put (by simp)]
  by_cases hother : other = dir ++ [name]
  · exact .inr ⟨by rw [hother, ← hnode], by rw [if_pos hother]⟩
  · exact .inl (by rw [if_neg hother])

/-- Creating directories adds some, however far it comes. -/
theorem Sound.makeDirsWithin {depth : Nat} {p : Path} {t : FileTree} (ht : t.Sound) :
    AddsDirectories t (makeDirsWithin depth p t).2 ∧ (makeDirsWithin depth p t).2.Sound := by
  have hnothing (t : FileTree) (ht : t.Sound) : AddsDirectories t t ∧ t.Sound := ⟨.refl t, ht⟩
  -- the directories above are there even if the last one cannot be created
  induction depth generalizing p t with
  | zero => exact hnothing t ht
  | succ depth ih =>
    unfold FileTree.makeDirsWithin
    split
    · exact hnothing t ht
    cases hmade : t.makeDir p with
    | ok made => exact ht.makeDir hmade
    | error error =>
      show AddsDirectories t (Prod.snd (if error ≠ .notFound then _ else _)) ∧
        (Prod.snd (if error ≠ .notFound then _ else _) : FileTree).Sound
      split
      · split <;> exact hnothing t ht
      cases p.parent? with
      | none => exact hnothing t ht
      | some above =>
        have habove := ih (p := above) ht
        rcases hrest : FileTree.makeDirsWithin depth above t with ⟨_ | _, between⟩
        · rw [hrest] at habove
          simp only [hrest]
          exact habove
        · rw [hrest] at habove
          cases hmade : between.makeDir p with
          | ok made =>
            have hlast := habove.2.makeDir hmade
            simp only [hrest, hmade]
            exact ⟨habove.1.trans hlast.1, hlast.2⟩
          | error error =>
            simp only [hrest, hmade]
            split <;> exact habove

theorem Sound.makeDirs {t : FileTree} (ht : t.Sound) (p : Path) :
    AddsDirectories t (t.makeDirs p).2 ∧ (t.makeDirs p).2.Sound :=
  ht.makeDirsWithin

end RenderCheck.FileTree
