import RenderCheck.Proofs.Run.AtRest
import RenderCheck.Proofs.Run.History
import RenderCheck.Proofs.Walk.Order

/-! # Runs over subtrees

    A run over a directory reports what lies directly in it, and then what the
    runs over its subdirectories report; and it counts what all these count.

    * **Adding up** counters and reports.
    * **Subtrees**: what a walk meets below a subdirectory has the same files as
      what a walk of its own meets there.
    * **Runs** are made of what lies directly in the root and of runs over the
      subdirectories (`run_composes`). -/

namespace RenderCheck

variable {μ : Type}

/-! ## Adding up -/

namespace Summary

/-- Counters add up one by one. -/
instance : Add Summary where
  add a b :=
    { filesChecked := a.filesChecked + b.filesChecked
      imagesCompared := a.imagesCompared + b.imagesCompared
      missing := a.missing + b.missing
      mismatched := a.mismatched + b.mismatched
      textDifferences := a.textDifferences + b.textDifferences
      diffsWritten := a.diffsWritten + b.diffsWritten }

/-- Nothing is counted yet. -/
instance : Zero Summary where
  zero := {}

/-- What some outcomes and others count adds up. -/
@[simp] theorem tally_append (outcomes more : List Outcome) :
    tally (outcomes ++ more) = tally outcomes + tally more := by
  unfold tally
  simp only [List.length_append, List.countP_append]
  rfl

theorem tally_flatten (parts : List (List Outcome)) :
    tally parts.flatten = (parts.map tally).sum := by
  induction parts with
  | nil => rfl
  | cons outcomes parts ih => simp [ih]

end Summary

/-- The lines of some outcomes and of others come one after the other. -/
@[simp] theorem reportText_append (outcomes more : List Outcome) :
    reportText (outcomes ++ more) = reportText outcomes ++ reportText more := by
  induction outcomes with
  | nil => simp
  | cons outcome outcomes ih => simp [ih, String.append_assoc]

theorem encode_reportText_flatten (parts : List (List Outcome)) :
    Text.encode (reportText parts.flatten).toList
      = parts.flatMap fun outcomes => Text.encode (reportText outcomes).toList := by
  induction parts with
  | nil => rfl
  | cons outcomes parts ih =>
    simp [ih]

/-! ## Related lists -/

section Related

variable {α β γ : Type} {related : α → β → Prop}

/-- What is related to one list after another is in two parts too. -/
theorem parts_of_forall₂_append {first second : List α} {others : List β}
    (h : List.Forall₂ related (first ++ second) others) :
    ∃ part rest, others = part ++ rest ∧ List.Forall₂ related first part ∧
      List.Forall₂ related second rest := by
  induction first generalizing others with
  | nil => exact ⟨[], others, rfl, .nil, h⟩
  | cons a first ih =>
    cases h with
    | cons ha hrest =>
      obtain ⟨part, rest, rfl, hpart, hsecond⟩ := ih hrest
      exact ⟨_ :: part, rest, rfl, .cons ha hpart, hsecond⟩

/-- What is related to lists one after the other is in as many parts. -/
theorem parts_of_forall₂_flatMap {f : γ → List α} {items : List γ} {others : List β}
    (h : List.Forall₂ related (items.flatMap f) others) :
    ∃ parts, others = parts.flatten ∧
      List.Forall₂ (fun item part => List.Forall₂ related (f item) part) items parts := by
  induction items generalizing others with
  | nil =>
    cases h
    exact ⟨[], rfl, .nil⟩
  | cons item items ih =>
    rw [List.flatMap_cons] at h
    obtain ⟨part, rest, rfl, hpart, hrest⟩ := parts_of_forall₂_append h
    obtain ⟨parts, rfl, hparts⟩ := ih hrest
    exact ⟨part :: parts, rfl, .cons hpart hparts⟩

/-- Lists that are alike one by one are alike one after the other. -/
theorem flatMap_eq_of_forall₂ {f : α → List γ} {g : β → List γ} {items : List α} {others : List β}
    (h : List.Forall₂ (fun item other => f item = g other) items others) :
    items.flatMap f = others.flatMap g := by
  induction h with
  | nil => rfl
  | cons hitem _ ih => rw [List.flatMap_cons, List.flatMap_cons, hitem, ih]

end Related

/-! ## Subtrees -/

namespace Walk

/-- A directory below which no error is met is listed. -/
theorem exists_entries_of_itemsIn {files : FileTree} {referenceRoot renderRoot : Path} {depth : Nat}
    {dir : Path}
    (hok : ∀ item ∈ itemsIn files referenceRoot renderRoot depth dir, ∃ pair, item = .ok pair) :
    0 < depth ∧ ∃ entries, files.listDir dir = .ok entries := by
  cases depth with
  | zero =>
    obtain ⟨pair, hpair⟩ := hok _ (List.mem_singleton.2 rfl)
    cases hpair
  | succ depth =>
    refine ⟨Nat.succ_pos depth, ?_⟩
    unfold itemsIn at hok
    cases hlist : files.listDir dir with
    | ok entries => exact ⟨entries, rfl⟩
    | error error =>
      rw [hlist] at hok
      obtain ⟨pair, hpair⟩ := hok _ (List.mem_singleton.2 rfl)
      cases hpair

/-- Two items are pairs of the same files. -/
def SameFiles (item item' : WalkItem) : Prop :=
  ∃ pair relative', item = .ok pair ∧ item' = .ok { pair with relative := relative' }

section Within

variable {files : FileTree} {referenceRoot renderRoot : Path} {name : String}

/-- Below a subdirectory the pair of a path has the same files under either
    root. -/
theorem sameFiles_below (hroot : referenceRoot.text ≠ "") (hname : IsName name)
    {names : List String} (hsome : names ≠ []) (hnames : ∀ other ∈ names, IsName other) :
    SameFiles (FilePair.ofReference referenceRoot renderRoot (referenceRoot.below (name :: names)))
      (FilePair.ofReference (referenceRoot.join ⟨name⟩) (renderRoot.join ⟨name⟩)
        (referenceRoot.below (name :: names))) := by
  have hall : ∀ other ∈ name :: names, IsName other := by
    simpa using And.intro hname hnames
  have hinner : (referenceRoot.join ⟨name⟩).text ≠ "" := by
    obtain ⟨text, last, htext, -⟩ := Path.join_ends referenceRoot hname
    rw [ne_eq, ← String.toList_inj, htext]
    simp
  rw [FilePair.ofReference_below renderRoot hroot (List.cons_ne_nil _ _) hall, Path.below_cons,
    FilePair.ofReference_below _ hinner hsome hnames]
  refine ⟨_, ⟨"/".intercalate names⟩, rfl, ?_⟩
  -- the counterparts lie below the render root at the end of the same names
  unfold FilePair.below
  rw [Path.join_intercalate renderRoot (List.cons_ne_nil _ _) hall,
    Path.join_intercalate _ hsome hnames]
  rfl

/-- What is met below a subdirectory, if no error is, has the same files as what
    a walk of its own meets there that may go as deep. -/
theorem sameFiles_itemsIn (hsound : files.Sound) (hroot : referenceRoot.text ≠ "")
    (hname : IsName name) {depth depth' : Nat} (hdepth : depth ≤ depth') {names : List String}
    (hnames : ∀ other ∈ names, IsName other)
    (hok : ∀ item ∈ itemsIn files referenceRoot renderRoot depth (referenceRoot.below (name :: names)),
      ∃ pair, item = .ok pair) :
    List.Forall₂ SameFiles
      (itemsIn files referenceRoot renderRoot depth (referenceRoot.below (name :: names)))
      (itemsIn files (referenceRoot.join ⟨name⟩) (renderRoot.join ⟨name⟩) depth'
        (referenceRoot.below (name :: names))) := by
  induction depth generalizing depth' names with
  | zero => exact absurd (exists_entries_of_itemsIn hok).1 (Nat.lt_irrefl 0)
  | succ depth ih =>
    obtain ⟨-, entries, hlist⟩ := exists_entries_of_itemsIn hok
    obtain ⟨deeper, rfl⟩ : ∃ deeper, depth' = deeper + 1 := ⟨depth' - 1, by omega⟩
    unfold itemsIn at hok ⊢
    rw [hlist] at hok ⊢
    -- what lies in the directory lies below both roots by one more name
    have hdeeper {other : String} {keep : String × Node → Bool}
        (hother : other ∈ sortedNames entries keep) : ∀ each ∈ names ++ [other], IsName each := by
      obtain ⟨node, hmem, -⟩ := mem_sortedNames.1 hother
      have hall : files.AllNames IsName := hsound.named
      intro each heach
      rcases List.mem_append.1 heach with heach | heach
      · exact hnames each heach
      · rw [List.mem_singleton.1 heach]
        exact hall.of_listDir hlist hmem
    have hjoin (other : String) : (referenceRoot.below (name :: names)).join ⟨other⟩
        = referenceRoot.below (name :: (names ++ [other])) := by
      rw [← Path.below_concat, List.cons_append]
    refine List.rel_append ?_ ?_
    · rw [List.forall₂_map_left_iff, List.forall₂_map_right_iff, List.forall₂_same]
      intro path hpath
      obtain ⟨other, hother, rfl⟩ := List.mem_map.1 (List.mem_filter.1 hpath).1
      rw [hjoin]
      exact sameFiles_below hroot hname (by simp) (hdeeper hother)
    · refine List.rel_flatMap (R := fun other other' => other = other' ∧ other ∈ (inOrder entries).2)
        (List.forall₂_same.2 fun other hother => ⟨rfl, hother⟩) ?_
      rintro other _ ⟨rfl, hother⟩
      dsimp only
      rw [hjoin]
      have hbelow : ∀ item ∈ itemsIn files referenceRoot renderRoot depth
          (referenceRoot.below (name :: (names ++ [other]))), ∃ pair, item = .ok pair := by
        intro item hitem
        rw [← hjoin] at hitem
        exact hok item (List.mem_append_right _ (List.mem_flatMap.2 ⟨other, hother, hitem⟩))
      exact ih (by omega) (hdeeper hother) hbelow

end Within

/-- The names of what a walk meets directly in a directory, in order. -/
def filesIn (files : FileTree) (dir : Path) (location : Location) : List String :=
  (sortedNames (files.children location) (!·.2.isDirectory)).filter fun name =>
    !files.isDir (dir.join ⟨name⟩)

/-- The names of the directories in a directory, in order. -/
def directoriesIn (files : FileTree) (location : Location) : List String :=
  sortedNames (files.children location) (·.2.isDirectory)

section Root

variable {files : FileTree} {referenceRoot : Path} {location : Location}
  (hlocation : files.locate true referenceRoot = .ok ⟨location, some .directory⟩)

include hlocation

/-- What is met in a directory lies directly in it, or in its subdirectories. -/
theorem itemsIn_eq_append (renderRoot : Path) (depth : Nat) :
    itemsIn files referenceRoot renderRoot (depth + 1) referenceRoot
      = ((filesIn files referenceRoot location).map fun name =>
          FilePair.ofReference referenceRoot renderRoot (referenceRoot.join ⟨name⟩))
        ++ (directoriesIn files location).flatMap fun name =>
          itemsIn files referenceRoot renderRoot depth (referenceRoot.join ⟨name⟩) := by
  have hlist : files.listDir referenceRoot = .ok (files.children location) :=
    FileTree.listDir_eq_ok_iff.2 ⟨location, hlocation, rfl⟩
  rw [itemsIn, hlist]
  simp only [inOrder, List.filter_map, List.map_map]
  rfl

variable (hsound : files.Sound)

include hsound

/-- They are the names of the files in the directory, and of the links that lead
    to no directory. -/
theorem mem_filesIn {name : String} :
    name ∈ filesIn files referenceRoot location ↔ IsTask files referenceRoot location [name] := by
  unfold filesIn
  rw [isTask_singleton_iff hsound hlocation, List.mem_filter, Bool.not_eq_true']

omit hlocation in
theorem mem_directoriesIn {name : String} :
    name ∈ directoriesIn files location ↔
      files.node? (location ++ [name]) = some .directory := by
  refine ⟨node?_eq_directory_of_mem hsound, ?_⟩
  intro hnode
  exact mem_sortedNames.2 ⟨.directory, hsound.mem_children_iff.2 hnode, rfl⟩

/-- A walk meets what lies directly in the root, and then what lies in its
    subdirectories. -/
theorem items_eq_append (renderRoot : Path) :
    items files referenceRoot renderRoot
      = ((filesIn files referenceRoot location).map fun name =>
          .ok (FilePair.below referenceRoot renderRoot [name]))
        ++ (directoriesIn files location).flatMap fun name =>
          itemsIn files referenceRoot renderRoot (depthLimit - 1) (referenceRoot.join ⟨name⟩) := by
  have hroot := FileTree.ne_empty_of_locate hlocation
  have hsplit : items files referenceRoot renderRoot = _ ++ _ :=
    (items_eq_itemsIn_of_locate renderRoot hlocation).trans
      (itemsIn_eq_append hlocation renderRoot (depthLimit - 1))
  rw [hsplit]
  congr 1
  apply List.map_congr_left
  intro name hmem
  obtain ⟨-, node, hnode, -⟩ := (mem_filesIn hlocation hsound).1 hmem
  have hnames : ∀ other ∈ [name], IsName other := fun other hother =>
    hsound.isName_of_mem hnode other (List.mem_append_right _ hother)
  have hbelow := FilePair.ofReference_below renderRoot hroot (List.cons_ne_nil name []) hnames
  exact hbelow

end Root

end Walk

/-! ## Runs -/

namespace Comparator

/-- The comparator for a subdirectory of the roots. -/
def within (c : Comparator μ) (name : String) : Comparator μ :=
  { c with
    config := { c.config with
      referenceDir := c.config.referenceDir.join ⟨name⟩
      renderDir := c.config.renderDir.join ⟨name⟩ } }

/-- What a run is made of: what lies directly in the reference root, at a
    location, and what became of it; and the subdirectories, and what the runs
    over them counted. -/
structure MadeOf (c : Comparator μ) (machine : Machine μ) (location : Location)
    (names directories : List String) (outcomes : List Outcome) (summaries : List Summary) :
    Prop where
  /-- The reference root leads to the location. -/
  leads : machine.files.locate true c.config.referenceDir = .ok ⟨location, some .directory⟩
  /-- The names are those of files and of links to no directory. -/
  mem_names : ∀ name, name ∈ names ↔
    Walk.IsTask machine.files c.config.referenceDir location [name]
  /-- They are in the order of their bytes. -/
  names_sorted : names.Pairwise fun a b => Text.encode a.toList < Text.encode b.toList
  /-- The directories are those that are no links. -/
  mem_directories : ∀ name, name ∈ directories ↔
    machine.files.node? (location ++ [name]) = some .directory
  /-- They are in the order of their bytes. -/
  directories_sorted : directories.Pairwise fun a b =>
    Text.encode a.toList < Text.encode b.toList
  /-- The outcomes are those of comparing what has the names. -/
  compared : List.Forall₂ (fun name outcome =>
    ((c.comparePair (FilePair.below c.config.referenceDir c.config.renderDir [name])).run.run
      machine).1 = .ok outcome) names outcomes
  /-- The summaries are those of runs over the directories, which succeed. -/
  counted : List.Forall₂ (fun name summary =>
    ((c.within name).run.run.run { machine := machine, sink := {} }).1 = .ok summary)
      directories summaries

section Runs

variable {c : Comparator μ}

/-- What is found of items is found of others with the same files. -/
theorem finds_of_sameFiles {files : FileTree} (h : c.Settled files)
    (hdiff : c.config.diffDir = none) {machine : Machine μ} (hmachine : machine.files = files)
    {items items' : List WalkItem} (hsame : List.Forall₂ Walk.SameFiles items items')
    {outcomes : List Outcome} (hfinds : List.Forall₂ (c.Finds files) items outcomes) :
    List.Forall₂ (c.Finds files) items' outcomes := by
  induction hsame generalizing outcomes with
  | nil => exact hfinds
  | cons hitem _ ih =>
    obtain ⟨pair, relative, rfl, rfl⟩ := hitem
    cases hfinds with
    | cons hpair hrest => exact .cons (hpair.of_same_files h hdiff machine hmachine relative) (ih hrest)

/-- What is found to be something is a pair. -/
theorem exists_pair_of_finds {files : FileTree} {items : List WalkItem} {outcomes : List Outcome}
    (hfinds : List.Forall₂ (c.Finds files) items outcomes) :
    ∀ item ∈ items, ∃ pair, item = .ok pair := by
  induction hfinds with
  | nil => simp
  | cons hitem _ ih =>
    obtain ⟨pair, rfl, -⟩ := hitem
    simpa using ih

variable {state : RunState μ} (hdiff : c.config.diffDir = none)
  (h : c.Settled state.machine.files) (hsink : state.sink.NeverFails)
  (hsound : state.machine.files.Sound)

include hdiff h hsink hsound

/-- A run over a subdirectory finds what the run over the root finds there. -/
theorem run_within {location : Location} (hlocation : state.machine.files.locate true
      c.config.referenceDir = .ok ⟨location, some .directory⟩) {name : String}
    (hnode : state.machine.files.node? (location ++ [name]) = some .directory)
    {outcomes : List Outcome} (hfinds : List.Forall₂ (c.Finds state.machine.files)
      (Walk.itemsIn state.machine.files c.config.referenceDir c.config.renderDir
        (Walk.depthLimit - 1) (c.config.referenceDir.join ⟨name⟩)) outcomes) :
    ((c.within name).run.run.run state).1 = .ok (Summary.tally outcomes) ∧
      ((c.within name).run.run.run state).2.sink
        = state.sink.add (Text.encode (reportText outcomes).toList) := by
  have hname : IsName name := hsound.isName_of_mem hnode name (by simp)
  have hroot := FileTree.ne_empty_of_locate hlocation
  have hitems := exists_pair_of_finds hfinds
  -- the directory could be listed, so the path leads to it
  obtain ⟨-, entries, hlist⟩ := Walk.exists_entries_of_itemsIn hitems
  obtain ⟨inner, hinner, -⟩ := FileTree.listDir_eq_ok_iff.1 hlist
  have hvalid : (c.within name).config.validateDirs state.machine.files = .ok () := by
    have hdir : state.machine.files.isDir (c.config.referenceDir.join ⟨name⟩) = true :=
      FileTree.isDir_iff.2 ⟨inner, hinner⟩
    unfold Config.validateDirs within
    simp only [hdir, hdiff]
    rfl
  refine run_of_finds (c := c.within name) hdiff ⟨h.measure, h.texts⟩ hvalid hsink ?_
  refine finds_of_sameFiles (c := c.within name) ⟨h.measure, h.texts⟩ hdiff rfl ?_ hfinds
  show List.Forall₂ _ _ (Walk.items _ (c.config.referenceDir.join ⟨name⟩) _)
  rw [Walk.items_eq_itemsIn_of_locate _ hinner]
  have hnone : ∀ other ∈ ([] : List String), IsName other := by simp
  exact Walk.sameFiles_itemsIn hsound hroot hname (Nat.sub_le _ _) hnone hitems

/-- A run that succeeds has found what lies directly in the root to be
    something, and what lies in each subdirectory as the run over that finds. -/
theorem exists_parts_of_run {summary : Summary} (hrun : (c.run.run.run state).1 = .ok summary) :
    ∃ location outcomes parts,
      state.machine.files.locate true c.config.referenceDir = .ok ⟨location, some .directory⟩ ∧
      List.Forall₂ (fun name outcome => c.Finds state.machine.files
          (.ok (FilePair.below c.config.referenceDir c.config.renderDir [name])) outcome)
        (Walk.filesIn state.machine.files c.config.referenceDir location) outcomes ∧
      List.Forall₂ (fun name part =>
          ((c.within name).run.run.run state).1 = .ok (Summary.tally part) ∧
          ((c.within name).run.run.run state).2.sink
            = state.sink.add (Text.encode (reportText part).toList))
        (Walk.directoriesIn state.machine.files location) parts ∧
      summary = Summary.tally (outcomes ++ parts.flatten) ∧
      (c.run.run.run state).2.sink
        = state.sink.add (Text.encode (reportText (outcomes ++ parts.flatten)).toList) := by
  obtain ⟨hvalid, all, hall⟩ := exists_finds_of_run hdiff h hsink hrun
  obtain ⟨hresult, hreport⟩ := run_of_finds hdiff h hvalid hsink hall
  obtain ⟨-, location, hlocation⟩ := leads_of_valid hvalid
  -- what was found is cut where the walk enters one subdirectory after the other
  rw [Walk.items_eq_append hlocation hsound] at hall
  obtain ⟨outcomes, rest, rfl, hdirect, hbelow⟩ := parts_of_forall₂_append hall
  obtain ⟨parts, rfl, hparts⟩ := parts_of_forall₂_flatMap hbelow
  rw [List.forall₂_map_left_iff] at hdirect
  have hnodes : ∀ name ∈ Walk.directoriesIn state.machine.files location,
      state.machine.files.node? (location ++ [name]) = some .directory :=
    fun name hname => (Walk.mem_directoriesIn hsound).1 hname
  refine ⟨location, outcomes, parts, hlocation, hdirect, ?_, ?_, hreport⟩
  · refine ((List.forall₂_and_left _ _).2 ⟨hnodes, hparts⟩).imp ?_
    rintro name part ⟨hnode, hfinds⟩
    exact run_within hdiff h hsink hsound hlocation hnode hfinds
  · rw [hresult] at hrun
    exact (Except.ok.inj hrun).symm

end Runs

/-- A run that succeeds reports what lies directly in the root and then what the
    runs over the subdirectories report, which succeed; and it counts what lies
    directly in the root and what these runs count. -/
theorem run_composes {c : Comparator μ} (hdiff : c.config.diffDir = none) {machine : Machine μ}
    (hsound : machine.files.Sound) (hsettled : c.Settled machine.files) {summary : Summary}
    (hrun : (c.run.run.run { machine := machine, sink := {} }).1 = .ok summary) :
    ∃ location names directories outcomes summaries,
      c.MadeOf machine location names directories outcomes summaries ∧
      (c.run.run.run { machine := machine, sink := {} }).2.sink.written
        = Text.encode (reportText outcomes).toList ++ directories.flatMap (fun name =>
            ((c.within name).run.run.run { machine := machine, sink := {} }).2.sink.written) ∧
      summary = Summary.tally outcomes + summaries.sum := by
  let state : RunState μ := { machine := machine, sink := {} }
  have hsink : state.sink.NeverFails := ⟨rfl, rfl⟩
  have hrest : c.Settled state.machine.files := hsettled
  obtain ⟨location, outcomes, parts, hlocation, hdirect, hruns, hsummary, hreport⟩ :=
    exists_parts_of_run hdiff hrest hsink hsound hrun
  -- names are sorted by their characters, which is the order of their bytes
  have hsorted (keep : String × Node → Bool) :
      (Walk.sortedNames (machine.files.children location) keep).Pairwise fun a b =>
        Text.encode a.toList < Text.encode b.toList :=
    (Walk.pairwise_sortedNames (hsound.nodup_children location) keep).imp
      Text.encode_lt_encode_iff.2
  refine ⟨location, Walk.filesIn machine.files c.config.referenceDir location,
    Walk.directoriesIn machine.files location, outcomes, parts.map Summary.tally, ?_, ?_, ?_⟩
  · refine ⟨hlocation, fun name => Walk.mem_filesIn hlocation hsound, (hsorted _).filter _,
      fun name => Walk.mem_directoriesIn hsound, hsorted _, ?_, ?_⟩
    · refine hdirect.imp ?_
      rintro name outcome ⟨pair, hpair, houtcome⟩
      cases hpair
      obtain ⟨after, hcompare, -⟩ := houtcome machine rfl
      rw [hcompare]
    · rw [List.forall₂_map_right_iff]
      exact hruns.imp fun name part hpart => hpart.1
  · -- a run over a subdirectory reports what is found there
    have hwritten : List.Forall₂ (fun name part =>
        ((c.within name).run.run.run state).2.sink.written = Text.encode (reportText part).toList)
        (Walk.directoriesIn machine.files location) parts :=
      hruns.imp fun name part hpart => congrArg Sink.written hpart.2
    rw [hreport, flatMap_eq_of_forall₂ hwritten, ← encode_reportText_flatten]
    simp [Sink.add, state]
  · rw [hsummary, Summary.tally_append, Summary.tally_flatten]

/-! ## A run over two levels -/

namespace TwoLevels

/-- Compares the trees `ref` and `out` by a script. -/
def comparator : Comparator (List Backend.Call) where
  config := { referenceDir := ⟨"ref"⟩, renderDir := ⟨"out"⟩ }
  backend := .scripted
    { metrics := [("ref/a", Binary64.ofMagnitude false (Binary64.nearestDecimal 1 0))] }
  imagePattern := ⟨[.anyText]⟩
  textDiffer := none

/-- One file is unlike its counterpart, and one further down has none. -/
def machine : Machine (List Backend.Call) where
  files := {
    workingDir := []
    entries := [(["ref"], .directory), (["ref", "s"], .directory), (["ref", "s", "t"], .directory),
      (["ref", "s", "t", "b"], .file .empty false), (["ref", "a"], .file .empty false),
      (["ref", "l"], .link ⟨"s"⟩), (["out"], .directory), (["out", "a"], .file .empty false)] }
  memory := []

/-- What a script answers depends on the reference only. -/
theorem settled (files : FileTree) : comparator.Settled files where
  measure reference generated := by
    have hnote (call : Backend.Call) : Action.Settled files (Backend.noteCall call) (.ok ()) :=
      fun machine hmachine => ⟨{ machine with memory := machine.memory ++ [call] }, rfl, hmachine⟩
    unfold comparator Backend.scripted
    dsimp only
    cases hmetric : List.lookup reference.text
        [("ref/a", Binary64.ofMagnitude false (Binary64.nearestDecimal 1 0))] with
    | none =>
      exact ⟨_, (hnote _).bind (Action.settled_ofExcept
        (.error (.metricParse ("no metric for " ++ reference.text))))⟩
    | some value => exact ⟨_, (hnote _).bind (Action.settled_pure _)⟩
  texts := by
    intro differ hdiffer
    cases hdiffer

/-- The run over the root is made of one file and of a run over a directory. -/
theorem run_made_of_two : comparator.config.diffDir = none ∧ machine.files.Sound ∧
    comparator.Settled machine.files ∧
    (comparator.run.run.run { machine := machine, sink := {} }).1
      = .ok { filesChecked := 2, imagesCompared := 1, missing := 1, mismatched := 1 } ∧
    ∃ location names directories outcomes summaries,
      comparator.MadeOf machine location names directories outcomes summaries ∧
      (comparator.run.run.run { machine := machine, sink := {} }).2.sink.written
        = Text.encode (reportText outcomes).toList ++ directories.flatMap (fun name =>
            ((comparator.within name).run.run.run
              { machine := machine, sink := {} }).2.sink.written) ∧
      ({ filesChecked := 2, imagesCompared := 1, missing := 1, mismatched := 1 } : Summary)
        = Summary.tally outcomes + summaries.sum := by
  have hsound : machine.files.Sound := by decide
  have hrun : (comparator.run.run.run { machine := machine, sink := {} }).1
      = .ok { filesChecked := 2, imagesCompared := 1, missing := 1, mismatched := 1 } := by
    decide +kernel
  exact ⟨rfl, hsound, settled _, hrun, run_composes rfl hsound (settled _) hrun⟩

end TwoLevels

end Comparator

end RenderCheck
