import RenderCheck.Proofs.Run.Frame
import RenderCheck.Proofs.Walk.Growing

/-! # What a run does to its inputs

    Nothing keeps the diff directory apart from the compared trees, and diff
    images are written while the walk goes on. So a file of these trees keeps
    its bytes unless a diff image is written into it, and the walk may meet
    diff images. It meets all that was there and stays, and nothing else but
    them.

    * **Gathering** (`Gathers`): what is compared on the way from one tree to
      another, by one rule for each way to go on.
    * **The walk** gathers what there is (`gathers_visitDir`).
    * **Inputs** and what becomes of them (`inputs_kept`), and a run whose diff
      directory lies in its reference tree. -/

namespace RenderCheck

variable {μ : Type}

namespace Comparator

/-! ## Gathering -/

/-- A computation with notes that lets the files grow, from any tree that grew
    from a first one. If it succeeds, and the files did not outgrow a last one
    by then, it compared the pairs of some names. -/
def Gathers (c : Comparator μ) (first last : FileTree) (y : Noted μ (Step μ) PUnit)
    (compared : List (List String) → Prop) : Prop :=
  ∀ state earlier, state.machine.files.Sound → first.Grows state.machine.files →
    ∃ result after steps, y.run.run (state, earlier) = (result, (after, earlier ++ steps)) ∧
      state.machine.files.Grows after.machine.files ∧ after.machine.files.Sound ∧
      (result = .ok () → after.machine.files.Grows last → ∃ tails, compared tails ∧
        steps.map Step.pair
          = tails.map (FilePair.below c.config.referenceDir c.config.renderDir))

section Rules

variable {c : Comparator μ} {first last : FileTree} {compared : List (List String) → Prop}

/-- What is compared is also known in other words, and the last tree grew from
    the first. -/
theorem Gathers.mono {y : Noted μ (Step μ) PUnit} (h : c.Gathers first last y compared)
    {compared' : List (List String) → Prop}
    (hmono : first.Grows last → ∀ tails, compared tails → compared' tails) :
    c.Gathers first last y compared' := by
  intro state earlier hsound hfirst
  obtain ⟨result, after, steps, hrun, hgrows, hafter, hok⟩ := h state earlier hsound hfirst
  refine ⟨result, after, steps, hrun, hgrows, hafter, ?_⟩
  intro hresult hlast
  obtain ⟨tails, htails, hsteps⟩ := hok hresult hlast
  exact ⟨tails, hmono ((hfirst.trans hgrows).trans hlast) tails htails, hsteps⟩

/-- Doing nothing compares nothing. -/
theorem gathers_pure : c.Gathers first last (pure PUnit.unit) (· = []) := by
  intro state earlier hsound _
  refine ⟨.ok (), state, [], ?_, .refl _, hsound, fun _ _ => ⟨[], rfl, rfl⟩⟩
  rw [List.append_nil]
  rfl

/-- One thing after the other compares what both compare. -/
theorem Gathers.andThen {y z : Noted μ (Step μ) PUnit} {more : List (List String) → Prop}
    (hy : c.Gathers first last y compared) (hz : c.Gathers first last z more) :
    c.Gathers first last (y >>= fun _ => z) fun tails =>
      ∃ front back, tails = front ++ back ∧ compared front ∧ more back := by
  intro state earlier hsound hfirst
  obtain ⟨result, between, steps, hrun, hgrows, hbetween, hok⟩ := hy state earlier hsound hfirst
  cases result with
  | error error =>
    exact ⟨.error error, between, steps, run_bind_of_error hrun _, hgrows, hbetween,
      fun h => nomatch h⟩
  | ok _ =>
    obtain ⟨result, after, steps', hrun', hgrows', hafter, hok'⟩ :=
      hz between (earlier ++ steps) hbetween (hfirst.trans hgrows)
    refine ⟨result, after, steps ++ steps', ?_, hgrows.trans hgrows', hafter,
      fun hresult hlast => ?_⟩
    · rw [run_bind_of_ok hrun, hrun', List.append_assoc]
    · obtain ⟨front, hfront, hsteps⟩ := hok rfl (hgrows'.trans hlast)
      obtain ⟨back, hback, hsteps'⟩ := hok' hresult hlast
      refine ⟨front ++ back, ⟨front, back, rfl, hfront, hback⟩, ?_⟩
      rw [List.map_append, List.map_append, hsteps, hsteps']

/-- Going through different things compares what each of them compares. -/
theorem Gathers.forM {α : Type} {f : α → Noted μ (Step μ) PUnit}
    {comparedBy : α → List (List String) → Prop} {items : List α} (hnodup : items.Nodup)
    (h : ∀ item ∈ items, c.Gathers first last (f item) (comparedBy item)) :
    c.Gathers first last (forM items f) fun tails =>
      ∃ part : α → List (List String), tails = items.flatMap part ∧
        ∀ item ∈ items, comparedBy item (part item) := by
  classical
  induction items with
  | nil => exact gathers_pure.mono fun _ tails htails => ⟨fun _ => [], htails, by simp⟩
  | cons item items ih =>
    obtain ⟨hnew, hnodup⟩ := List.nodup_cons.1 hnodup
    rw [List.forM_cons]
    refine ((h item List.mem_cons_self).andThen
      (ih hnodup fun other hother => h other (List.mem_cons_of_mem _ hother))).mono ?_
    rintro - tails ⟨front, back, rfl, hfront, part, rfl, hpart⟩
    -- as the items are different, the part of the first can be put beside the others
    have hothers : ∀ other ∈ items, Function.update part item front other = part other := by
      intro other hother
      have hne : other ≠ item := fun heq => hnew (heq ▸ hother)
      exact Function.update_of_ne hne front part
    refine ⟨Function.update part item front, ?_, ?_⟩
    · rw [List.flatMap_cons, Function.update_self, List.flatMap_def, List.flatMap_def,
        List.map_congr_left hothers]
    · intro other hother
      rcases List.mem_cons.1 hother with rfl | hother
      · rwa [Function.update_self]
      · rw [hothers other hother]
        exact hpart other hother

/-- After a look at the files these are the first tree. -/
theorem gathers_look {f : FileTree → Noted μ (Step μ) PUnit}
    (h : ∀ files : FileTree, files.Sound → first.Grows files →
      c.Gathers files last (f files) compared) :
    c.Gathers first last ((Run.act Action.files).unnoted >>= f) compared := by
  intro state earlier hsound hfirst
  rw [run_bind_of_ok (Run.run_unnoted_files state earlier)]
  exact h state.machine.files hsound hfirst state earlier hsound (.refl _)

/-- A walk that fails does not succeed. -/
theorem gathers_note_error (error : CompareError) :
    c.Gathers first last (c.note (.error error)) compared := by
  intro state earlier hsound _
  have hreport := c.run_report_of_stops state (.walk error)
  refine ⟨.error error, state, [], ?_, .refl _, hsound, fun h => nomatch h⟩
  show (((c.report _).run.run state).1, ((c.report _).run.run state).2, earlier ++ []) = _
  rw [hreport]

variable {picture : Picture} (hdraws : c.backend.Draws picture) (htexts : c.TextsLeaveFiles)

include hdraws htexts

/-- Noting a pair compares it. -/
theorem gathers_note (names : List String) :
    c.Gathers first last
      (c.note (.ok (FilePair.below c.config.referenceDir c.config.renderDir names)))
      (· = [names]) := by
  intro state earlier hsound _
  rcases hpair : (c.comparePair (.below c.config.referenceDir c.config.renderDir names)).run.run
    state.machine with ⟨result, after⟩
  have heffect := comparePair_effect hdraws htexts
    (.below c.config.referenceDir c.config.renderDir names) state.machine hsound
  rw [hpair] at heffect
  obtain ⟨hgrows, hafter⟩ := heffect.grows hsound
  cases result with
  | error error =>
    have hreport := c.run_report_of_stops state (.comparison hpair)
    refine ⟨.error error, { state with machine := after }, [], ?_, hgrows, hafter,
      fun h => nomatch h⟩
    show (((c.report _).run.run state).1, ((c.report _).run.run state).2,
      earlier ++ (c.stepOf? state.machine (.ok _)).toList) = _
    rw [hreport, stepOf?, hpair]
    rfl
  | ok outcome =>
    -- reporting changes the sink and the counters, and the machine no more
    obtain ⟨hmachine, -⟩ := c.run_report_leaves hpair
    rcases hreport : (c.report (.ok (.below c.config.referenceDir c.config.renderDir
      names))).run.run state with ⟨result, reported⟩
    rw [hreport] at hmachine
    replace hmachine : reported.machine = after := hmachine
    refine ⟨result, reported, [⟨_, outcome, state.machine, after⟩], ?_, hmachine ▸ hgrows,
      hmachine ▸ hafter, fun _ _ => ⟨[names], rfl, rfl⟩⟩
    show (((c.report _).run.run state).1, ((c.report _).run.run state).2,
      earlier ++ (c.stepOf? state.machine (.ok _)).toList) = _
    rw [hreport, stepOf?, hpair]
    rfl

end Rules

/-! ## The walk -/

section Walk

variable {c : Comparator μ} {picture : Picture} (hdraws : c.backend.Draws picture)
  (htexts : c.TextsLeaveFiles) (hroot : c.config.referenceDir.text ≠ "")
  {low high : FileTree} (hlow : low.Sound) (hhigh : high.Sound)

include hdraws htexts hroot hlow

/-- A name that is not a directory's is compared, unless it leads to one. -/
theorem gathers_alone {first : FileTree} (hfirst : low.Grows first) {names : List String}
    {name : String} (hnames : ∀ other ∈ names ++ [name], IsName other) :
    c.Gathers first high
      ((Run.act Action.files).unnoted >>= fun files =>
        if files.isDir ((c.config.referenceDir.below names).join ⟨name⟩) then pure ()
        else c.note (FilePair.ofReference c.config.referenceDir c.config.renderDir
          ((c.config.referenceDir.below names).join ⟨name⟩)))
      fun tails => ∃ rests, tails = rests.map (names ++ name :: ·) ∧
        (rests = [[]] ∧ low.isDir ((c.config.referenceDir.below names).join ⟨name⟩) = false ∨
          rests = [] ∧ high.isDir ((c.config.referenceDir.below names).join ⟨name⟩) = true) := by
  apply gathers_look
  intro files hfiles hgrows
  -- a directory stays one to the end, and what is none was none from the first
  by_cases hdir : files.isDir ((c.config.referenceDir.below names).join ⟨name⟩) = true
  · rw [if_pos hdir]
    refine gathers_pure.mono fun hlast tails htails => ⟨[], htails, .inr ⟨rfl, ?_⟩⟩
    exact hlast.isDir hfiles hdir
  · rw [if_neg hdir, ← Path.below_concat,
      FilePair.ofReference_below _ hroot (by simp) hnames]
    refine (gathers_note hdraws htexts _).mono fun _ tails htails =>
      ⟨[[]], htails, .inl ⟨rfl, ?_⟩⟩
    rw [Path.below_concat]
    exact Bool.eq_false_iff.2 fun hlowDir => hdir ((hfirst.trans hgrows).isDir hlow hlowDir)

omit hdraws htexts hroot hlow in
/-- Ways that go on behind some names go on behind them one by one. -/
theorem flatMap_behind {names listed : List String} {part rests : String → List (List String)}
    (h : ∀ name ∈ listed, part name = (rests name).map (names ++ name :: ·)) :
    listed.flatMap part
      = (listed.flatMap fun name => (rests name).map (name :: ·)).map (names ++ ·) := by
  rw [List.map_flatMap, List.flatMap_def, List.flatMap_def]
  congr 1
  apply List.map_congr_left
  intro name hname
  rw [h name hname, List.map_map]
  rfl

include hhigh

/-- A walk from a directory gathers what was below it and stays, and new
    files. -/
theorem gathers_visitDir (depth : Nat) {first : FileTree} (hfirst : low.Grows first)
    {names : List String} (hnames : ∀ name ∈ names, IsName name) {location : Location}
    (hdir : first.node? location = some .directory)
    (hmeans : Walk.Means low (c.config.referenceDir.below names) location) :
    c.Gathers first high
      (Walk.visitDir (Run.act Action.files).unnoted c.note c.config.referenceDir c.config.renderDir
        depth (c.config.referenceDir.below names))
      fun tails => ∃ rests, tails = rests.map (names ++ ·) ∧
        Walk.Walked low high (c.config.referenceDir.below names) location rests := by
  -- the tree the walk starts in changes from directory to directory, `low` and
  -- `high` are those of the whole walk
  induction depth generalizing first names location with
  | zero => exact gathers_note_error _
  | succ depth ih =>
    unfold Walk.visitDir
    apply gathers_look
    intro files hfiles hgrows
    replace hdir := hgrows.directory hdir
    have hbelow := hfirst.trans hgrows
    cases hlist : files.listDir (c.config.referenceDir.below names) with
    | error error => exact gathers_note_error _
    | ok entries =>
      obtain ⟨rfl, hleads⟩ := hmeans.leads hfiles hbelow hdir hlist
      have hdistinct := Walk.nodup_sortedNames (hfiles.nodup_children location)
      have hdeeper {name : String} {keep : String × Node → Bool}
          (hname : name ∈ Walk.sortedNames (files.children location) keep) :
          ∀ other ∈ names ++ [name], IsName other := by
        intro other hother
        rcases List.mem_append.1 hother with hother | hother
        · exact hnames other hother
        · obtain ⟨node, hnode, -⟩ := Walk.node?_of_mem_sortedNames hfiles hname
          exact hfiles.isName_of_mem hnode other (List.mem_append_right _ hother)
      have hunder : ∀ name ∈ Walk.sortedNames (files.children location) (·.2.isDirectory),
          c.Gathers files high
            (Walk.visitDir (Run.act Action.files).unnoted c.note c.config.referenceDir
              c.config.renderDir depth ((c.config.referenceDir.below names).join ⟨name⟩))
            fun tails => ∃ rests, tails = rests.map (names ++ name :: ·) ∧
              Walk.Walked low high ((c.config.referenceDir.below names).join ⟨name⟩)
                (location ++ [name]) rests := by
        intro name hname
        have hmeans := Walk.means_join hleads (hdeeper hname name (by simp))
        rw [← Path.below_concat] at hmeans
        have hgathers :=
          ih hbelow (hdeeper hname) (Walk.node?_eq_directory_of_mem hfiles hname) hmeans
        simpa using hgathers
      refine ((Gathers.forM (hdistinct (!·.2.isDirectory)) fun name hname =>
        gathers_alone hdraws htexts hroot hlow hbelow (hdeeper hname)).andThen
        (Gathers.forM (hdistinct (·.2.isDirectory)) hunder)).mono ?_
      rintro habove tails ⟨front, back, rfl, ⟨part, rfl, hpart⟩, part', rfl, hpart'⟩
      -- what is compared for each name comes down to ways behind it
      choose! alone halone using hpart
      choose! under hunder using hpart'
      refine ⟨_, ?_, Walk.walked_of_listing hlow hfiles hhigh hbelow habove hdir hleads
        (fun name hname => (halone name hname).2) (fun name hname => (hunder name hname).2)⟩
      rw [List.map_append, flatMap_behind fun name hname => (halone name hname).1,
        flatMap_behind fun name hname => (hunder name hname).1]

end Walk

/-! ## Inputs -/

section Runs

variable {c : Comparator μ} {picture : Picture} (hdraws : c.backend.Draws picture)
  (htexts : c.TextsLeaveFiles) {state : RunState μ} (hsound : state.machine.files.Sound)

include hdraws htexts hsound

/-- What can be read at a path can still be read there, unless the path leads to
    a diff image. -/
theorem readFile_kept {p : Path} {content : List UInt8}
    (hread : state.machine.files.readFile p = .ok content) :
    (c.run.run.run state).2.machine.files.readFile p = .ok content ∨
      ∃ location, (c.run.run.run state).2.machine.files.destination? p = some location ∧
        c.DrawsAt state (c.run.run.run state).2.machine.files location := by
  obtain ⟨last, course⟩ := exists_course (keepsSound hdraws htexts) hsound
  obtain ⟨hgrows, -⟩ := course.grows hdraws htexts hsound
  obtain ⟨location, executable, hplace⟩ := FileTree.readFile_eq_ok_iff.1 hread
  have hnode : some (.file content executable) = state.machine.files.node? location :=
    (hsound.fits_of_locate hplace).node_eq
  have hafter := hgrows.locate hsound hplace
  rcases course.keepsAt hdraws htexts hsound location with hkeeps | hdrawn
  · refine .inl (FileTree.readFile_eq_ok_iff.2 ⟨location, executable, ?_⟩)
    rw [hafter, hkeeps.node?_of_some hnode.symm]
  · exact .inr ⟨location, FileTree.destination?_of_locate hafter, hdrawn⟩

/-- A run that succeeds compares what was below the reference root and stays,
    and new files. -/
theorem exists_walked {summary : Summary} (hrun : (c.run.run.run state).1 = .ok summary) :
    ∃ root tails,
      state.machine.files.locate true c.config.referenceDir = .ok ⟨root, some .directory⟩ ∧
      (c.history state).map Step.pair
        = tails.map (FilePair.below c.config.referenceDir c.config.renderDir) ∧
      Walk.Walked state.machine.files (c.run.run.run state).2.machine.files c.config.referenceDir
        root tails := by
  obtain ⟨last, course⟩ := exists_course (keepsSound hdraws htexts) hsound
  obtain ⟨-, hafter⟩ := course.grows hdraws htexts hsound
  have hvalid := valid_of_run_ok hrun
  obtain ⟨hroot, root, hleads⟩ := leads_of_valid hvalid
  have hdir := (hsound.fits_of_locate hleads).node_eq.symm
  have hnoted := run_noted (keepsSound hdraws htexts) hsound hvalid
  have hconcluded := run_eq_concluded hvalid
  rcases hwalk : c.walked state with ⟨result, walked⟩
  rw [hwalk] at hnoted hconcluded
  rw [hconcluded] at hrun
  obtain ⟨rfl, -⟩ := concluded_eq_ok hrun
  have hfiles : (c.run.run.run state).2.machine.files = walked.machine.files := by
    rw [hconcluded, files_concluded]
  have hnames : ∀ name ∈ ([] : List String), IsName name := by simp
  -- the whole walk leads from the tree before the run to that after it
  obtain ⟨result, after, steps, hgathered, -, -, hok⟩ :=
    gathers_visitDir hdraws htexts hroot hsound hafter Walk.depthLimit (.refl _) hnames hdir
      (Walk.means_of_locate hsound hleads) (c.begun state) [] hsound (.refl _)
  rw [Path.below_nil, hnoted, List.nil_append] at hgathered
  cases hgathered
  obtain ⟨tails, ⟨rests, rfl, hwalked⟩, hpairs⟩ := hok rfl (hfiles ▸ .refl _)
  exact ⟨root, rests, hleads, by simpa using hpairs, hwalked⟩

/-- Of what a run that succeeds compares, what was not there is a diff image. -/
theorem drawsAt_of_isNewFile {root : Location} {tail : List String}
    (h : Walk.IsNewFile state.machine.files (c.run.run.run state).2.machine.files root tail) :
    c.DrawsAt state (c.run.run.run state).2.machine.files (root ++ tail) := by
  obtain ⟨last, course⟩ := exists_course (keepsSound hdraws htexts) hsound
  obtain ⟨-, hnone, content, executable, hfile⟩ := h
  refine (course.keepsAt hdraws htexts hsound (root ++ tail)).resolve_left ?_
  rintro (hsame | ⟨-, hdir⟩)
  · rw [hfile, hnone] at hsame
    cases hsame
  · rw [hfile] at hdir
    cases hdir

end Runs

/-- A run with the built-in comparison, however it ends, leaves what can be read
    at a path, unless the path leads to a diff image of the run. One that
    succeeds compares each thing once that was to be met below the reference
    root and still is, and nothing else but what was to be met and diff images.
    If what is to be met is the same before and after, it compares what a walk
    over the tree at rest meets, in that order. -/
theorem inputs_kept {config : Config} {toolbox : Tool.Toolbox} {c : Comparator μ}
    (hc : ofConfig config toolbox = .ok c) (hnative : config.backend = .native)
    (hdiff : ∀ files reference generated,
      (toolbox.perform files ⟨config.programs.diff, ["-w", reference, generated], []⟩).2 = files)
    (state : RunState μ) (hsound : state.machine.files.Sound) :
    let before := state.machine.files
    let after := (c.run.run.run state).2.machine.files
    (∀ p content, before.readFile p = .ok content → after.readFile p = .ok content ∨
      ∃ location, after.destination? p = some location ∧ c.DrawsAt state after location) ∧
    ∀ summary, (c.run.run.run state).1 = .ok summary →
      ∃ (root : Location) (tails : List (List String)),
      before.locate true config.referenceDir = .ok ⟨root, some .directory⟩ ∧
      (c.history state).map Step.pair
        = tails.map (FilePair.below config.referenceDir config.renderDir) ∧
      tails.Nodup ∧
      (∀ tail, Walk.IsTask before config.referenceDir root tail →
        Walk.IsTask after config.referenceDir root tail → tail ∈ tails) ∧
      (∀ tail ∈ tails, Walk.IsTask before config.referenceDir root tail ∨
        before.node? (root ++ tail) = none ∧ c.DrawsAt state after (root ++ tail)) ∧
      ((∀ tail, Walk.IsTask before config.referenceDir root tail ↔
          Walk.IsTask after config.referenceDir root tail) →
        (c.history state).map Step.item
          = Walk.items before config.referenceDir config.renderDir) := by
  intro before after
  -- all that is needed of the built-in comparison is what it writes, and where
  obtain ⟨rfl, hbackend, -⟩ := ofConfig_eq_ok hc
  have hdraws : c.backend.Draws nativePicture := by
    rw [hbackend, backendOf, hnative]
    exact Backend.native_draws
  have htexts := textsLeaveFiles_of_ofConfig hc hdiff
  constructor
  · intro p content hread
    exact readFile_kept hdraws htexts hsound hread
  · intro summary hrun
    obtain ⟨root, tails, hleads, hpairs, hwalked⟩ := exists_walked hdraws htexts hsound hrun
    refine ⟨root, tails, hleads, hpairs, hwalked.ordered.imp Walk.Precedes.ne, hwalked.all, ?_, ?_⟩
    · intro tail htail
      rcases hwalked.met tail htail with htask | hnew
      · exact .inl htask
      · exact .inr ⟨hnew.2.1, drawsAt_of_isNewFile hdraws htexts hsound hnew⟩
    · intro hsame
      -- with the same tasks before and after, nothing that was drawn is among them
      obtain ⟨last, course⟩ := exists_course (keepsSound hdraws htexts) hsound
      obtain ⟨hgrows, -⟩ := course.grows hdraws htexts hsound
      have hthere : before.node? root = some .directory :=
        (hsound.fits_of_locate hleads).node_eq.symm
      have htails := hwalked.eq_tailsIn hsound hgrows hthere (Walk.pathLimit_le_depthLimit _) hsame
      rw [Walk.items_eq_tailsIn hsound _ (FileTree.ne_empty_of_locate hleads)
        (hwalked.readable hthere), ← htails]
      show (c.history state).map (Except.ok ∘ Step.pair)
        = tails.map (Except.ok ∘ FilePair.below _ _)
      rw [← List.map_map, hpairs, List.map_map]

/-! ## Runs with a directory inside the reference tree -/

namespace Nested

/-- An image of one pixel. -/
def pixel (color : Pixel) : List UInt8 :=
  Png.encode (.ofFn 1 1 fun _ _ => color)

/-- The images in the reference tree. -/
def black : List UInt8 := pixel ⟨0, 0, 0, 255⟩

/-- The images in the other tree. -/
def white : List UInt8 := pixel ⟨255, 255, 255, 255⟩

/-- A comparison of the trees `ref` and `out`. -/
def config (diffDir : String) : Config :=
  { referenceDir := ⟨"ref"⟩, renderDir := ⟨"out"⟩, diffDir := some ⟨diffDir⟩, backend := .native }

/-- No program finds differences between texts. -/
def toolbox : Tool.Toolbox where
  start _ _ := .ok ()
  perform files _ := (⟨.exited 0, [], []⟩, files)

/-- The comparator for that configuration. -/
def comparator (diffDir : String) : Comparator Unit where
  config := config diffDir
  backend := .native
  imagePattern := ⟨[.anyText, .literal '.', .literal 'p', .literal 'n', .literal 'g']⟩
  textDiffer := none

theorem ofConfig_eq (diffDir : String) :
    ofConfig (config diffDir) toolbox = .ok (comparator diffDir) := by
  have hpattern : (config diffDir).readPattern = .ok (comparator diffDir).imagePattern := by
    have hparse : Glob.Pattern.parse (config diffDir).imagePattern
        = .ok ⟨[.anyText, .literal '.', .literal 'p', .literal 'n', .literal 'g']⟩ := by
      show Glob.Pattern.parse defaultImagePattern = _
      decide +kernel
    unfold Config.readPattern
    rw [hparse]
    rfl
  unfold ofConfig withBackend
  rw [hpattern]
  rfl

/-- Three images, of which one lies deeper and has no counterpart. The others
    are unlike theirs. -/
def state : RunState Unit where
  machine := {
    files := {
      workingDir := []
      entries := [(["ref"], .directory), (["ref", "a.png"], .file black false),
        (["ref", "b.png"], .file black false), (["ref", "z"], .directory),
        (["ref", "z", "a.png"], .file black false), (["out"], .directory),
        (["out", "a.png"], .file white false), (["out", "b.png"], .file white false)] }
    memory := () }
  sink := {}

/-- Diff images in a directory of their own do no harm. -/
theorem inputs_kept_apart :
    (state.machine.files.Sound ∧
      ((comparator "diffs").run.run.run state).1 = .ok
        { filesChecked := 3, imagesCompared := 2, missing := 1, mismatched := 2
          diffsWritten := 2 }) ∧
    ((comparator "diffs").run.run.run state).2.machine.files.readFile ⟨"ref/z/a.png"⟩ = .ok black ∧
    ∃ tails : List (List String),
      ((comparator "diffs").history state).map Step.pair
        = tails.map (FilePair.below ⟨"ref"⟩ ⟨"out"⟩) ∧ ["z", "a.png"] ∈ tails := by
  -- what the run does is computed once for all that is asked of it
  obtain ⟨hsound, hrun, hinput, hfile, hdiffs⟩ : state.machine.files.Sound ∧
      ((comparator "diffs").run.run.run state).1 = .ok
        { filesChecked := 3, imagesCompared := 2, missing := 1, mismatched := 2
          diffsWritten := 2 } ∧
      ((comparator "diffs").run.run.run state).2.machine.files.destination? ⟨"ref/z/a.png"⟩
        = some ["ref", "z", "a.png"] ∧
      ((comparator "diffs").run.run.run state).2.machine.files.node? ["ref", "z", "a.png"]
        = some (.file black false) ∧
      ∀ step ∈ (comparator "diffs").mismatches state,
        ((comparator "diffs").run.run.run state).2.machine.files.destination?
          (step.diffPath ⟨"diffs"⟩) ≠ some ["ref", "z", "a.png"] := by
    decide +kernel
  obtain ⟨hcontents, hcompared⟩ :=
    inputs_kept (ofConfig_eq "diffs") rfl (fun _ _ _ => rfl) state hsound
  refine ⟨⟨hsound, hrun⟩, ?_, ?_⟩
  · refine (hcontents ⟨"ref/z/a.png"⟩ black (by decide +kernel)).resolve_right ?_
    rintro ⟨location, hplace, dir, hdir, step, hstep, hdrawn⟩
    cases hdir
    rw [hinput] at hplace
    cases hplace
    exact hdiffs step hstep hdrawn
  · obtain ⟨root, tails, hleads, hpairs, -, hall, -⟩ := hcompared _ hrun
    have hroot : state.machine.files.locate true ⟨"ref"⟩ = .ok ⟨["ref"], some .directory⟩ := by
      decide +kernel
    obtain rfl : root = ["ref"] := by
      rw [show (config "diffs").referenceDir = ⟨"ref"⟩ from rfl, hroot] at hleads
      cases hleads
      rfl
    have htask {files : FileTree}
        (hthere : files.node? ["ref", "z", "a.png"] = some (.file black false)) :
        Walk.IsTask files ⟨"ref"⟩ ["ref"] ["z", "a.png"] :=
      ⟨by decide, _, hthere, by simp, by simp⟩
    exact ⟨tails, hpairs, hall _ (htask (by decide +kernel)) (htask hfile)⟩

/-- In the directory of that image they take its place, and what the walk finds
    there is not what there was. -/
theorem input_lost_inside :
    (config "ref/z").check = .ok (config "ref/z") ∧
    ofConfig (config "ref/z") toolbox = .ok (comparator "ref/z") ∧
    state.machine.files.Sound ∧
    ((comparator "ref/z").run.run.run state).1 = .ok
      { filesChecked := 4, imagesCompared := 2, missing := 2, mismatched := 2
        diffsWritten := 2 } ∧
    state.machine.files.readFile ⟨"ref/z/a.png"⟩ = .ok black ∧
    ((comparator "ref/z").run.run.run state).2.machine.files.readFile ⟨"ref/z/a.png"⟩ ≠ .ok black ∧
    Walk.items state.machine.files ⟨"ref"⟩ ⟨"out"⟩
      = [["a.png"], ["b.png"], ["z", "a.png"]].map (.ok <| FilePair.below ⟨"ref"⟩ ⟨"out"⟩ ·) ∧
    ((comparator "ref/z").history state).map Step.item
      = [["a.png"], ["b.png"], ["z", "a.png"], ["z", "b.png"]].map
          (.ok <| FilePair.below ⟨"ref"⟩ ⟨"out"⟩ ·) := by
  refine ⟨by decide +kernel, ofConfig_eq "ref/z", ?_⟩
  decide +kernel

end Nested

end Comparator

end RenderCheck
