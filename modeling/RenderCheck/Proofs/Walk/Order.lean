import RenderCheck.Proofs.FileTree.Resolution
import RenderCheck.Proofs.Text.ByteOrder
import RenderCheck.Proofs.Walk.SortedNames

/-! # What a walk meets, and in which order

    A walk over files at rest meets the entries below the root that are neither
    directories nor links to directories, each once, and in an order that the
    entries determine: what a directory lists in which order plays no part.

    * **Tails**: the names on the way from a directory to what is met below it.
    * **The order**: where two ways part, no directory comes after one, and
      then names come in the order of their bytes (`Precedes`).
    * **Unreadable depths**: a path that can be read is shorter than the walk
      may go deep. -/

namespace RenderCheck

namespace Walk

/-! ## Tails -/

/-- The names on the way from a directory to each thing met below it. -/
def tailsIn (files : FileTree) : (depth : Nat) → Path → List (List String)
  | 0, _ => []
  | depth + 1, dir =>
    match files.listDir dir with
    | .error _ => []
    | .ok entries =>
      ((sortedNames entries (!·.2.isDirectory)).filter fun name =>
          !files.isDir (dir.join ⟨name⟩)).map ([·])
        ++ (sortedNames entries (·.2.isDirectory)).flatMap fun name =>
          (tailsIn files depth (dir.join ⟨name⟩)).map (name :: ·)

/-! ## Directories that can be read -/

/-- A path that leads to a directory, with every directory below it readable. -/
structure Readable (files : FileTree) (dir : Path) (location : Location) : Prop where
  /-- The path leads to the directory at the location. -/
  leads : files.locate true dir = .ok ⟨location, some .directory⟩
  /-- Directories below it can be listed. -/
  listable : ∀ tail, files.node? (location ++ tail) = some .directory →
    ∃ entries, files.listDir (dir.below tail) = .ok entries

section Readable

variable {files : FileTree} {dir : Path} {location : Location}

theorem Readable.listDir_eq (h : Readable files dir location) :
    files.listDir dir = .ok (files.children location) :=
  FileTree.listDir_eq_ok_iff.2 ⟨location, h.leads, rfl⟩

/-- The directories in a readable one are readable. -/
theorem Readable.enter (h : Readable files dir location) {name : String} (hname : IsName name)
    (hnode : files.node? (location ++ [name]) = some .directory) :
    Readable files (dir.join ⟨name⟩) (location ++ [name]) := by
  constructor
  · obtain ⟨entries, hentries⟩ := h.listable [name] hnode
    obtain ⟨found, hfound, -⟩ := FileTree.listDir_eq_ok_iff.1 hentries
    rw [Path.below_cons, Path.below_nil] at hfound
    have hplace := FileTree.locate_join_of_not_link h.leads hname (by simp [hnode]) true
    rw [hfound] at hplace
    rw [hfound]
    split at hplace
    · cases hplace
    split at hplace
    · cases hplace
    · rw [hplace, hnode]
  · intro tail htail
    rw [List.append_assoc] at htail
    obtain ⟨entries, hentries⟩ := h.listable (name :: tail) htail
    exact ⟨entries, hentries⟩

/-- A path that leads somewhere is short enough. -/
theorem Readable.utf8ByteSize_lt (h : Readable files dir location) :
    dir.text.utf8ByteSize < FileTree.pathLimit := by
  obtain ⟨hallowed, -⟩ := FileTree.locateSteps_eq_ok_iff.1 h.leads
  unfold FileTree.refusal? at hallowed
  split at hallowed
  · cases hallowed
  split at hallowed
  · cases hallowed
  split at hallowed
  · cases hallowed
  next hshort => exact Nat.not_le.1 hshort

/-- A name makes a path longer. -/
theorem utf8ByteSize_lt_join (dir : Path) {name : String} (hname : IsName name) :
    dir.text.utf8ByteSize < (dir.join ⟨name⟩).text.utf8ByteSize := by
  have hsome : 0 < name.utf8ByteSize := by
    rw [Nat.pos_iff_ne_zero, ne_eq, String.utf8ByteSize_eq_zero_iff]
    exact hname.nonempty
  rw [Path.join_text dir hname]
  split <;> simp only [String.utf8ByteSize_append] <;> omega

end Readable

/-! ## What is met -/

/-- Something below a directory that a walk meets: a file, or a link that leads
    to no directory. -/
def IsTask (files : FileTree) (dir : Path) (location : Location) (tail : List String) : Prop :=
  tail ≠ [] ∧ ∃ node, files.node? (location ++ tail) = some node ∧ node ≠ .directory ∧
    ∀ target, node = .link target → files.isDir (dir.below tail) = false

section Tails

variable {files : FileTree} (hsound : files.Sound) {dir : Path} {location : Location}

include hsound

/-- What is met in a directory leads to no directory. -/
theorem IsTask.isDir_eq_false (hleads : files.locate true dir = .ok ⟨location, some .directory⟩)
    {name : String} (h : IsTask files dir location [name]) :
    files.isDir (dir.join ⟨name⟩) = false := by
  obtain ⟨-, node, hnode, hplain, hlink⟩ := h
  have hname : IsName name := hsound.isName_of_mem hnode name (by simp)
  cases node with
  | directory => exact absurd rfl hplain
  | link target => exact hlink target rfl
  | file content executable =>
    rw [Bool.eq_false_iff, ne_eq, FileTree.isDir_iff]
    rintro ⟨found, hfound⟩
    rw [FileTree.locate_join_of_not_link hleads hname (by simp [hnode]) true, hnode] at hfound
    split at hfound
    · cases hfound
    split at hfound <;> cases hfound

/-- A name in a directory is met there if it is that of a file, or of a link
    that leads to no directory. -/
theorem isTask_singleton_iff (hleads : files.locate true dir = .ok ⟨location, some .directory⟩)
    {name : String} :
    IsTask files dir location [name] ↔
      name ∈ sortedNames (files.children location) (!·.2.isDirectory) ∧
        files.isDir (dir.join ⟨name⟩) = false := by
  rw [mem_sortedNames]
  constructor
  · intro h
    have hdir := h.isDir_eq_false hsound hleads
    obtain ⟨-, node, hnode, hplain, -⟩ := h
    have hkeep : (!node.isDirectory) = true := by cases node <;> simp_all [Node.isDirectory]
    exact ⟨⟨node, hsound.mem_children_iff.2 hnode, hkeep⟩, hdir⟩
  · rintro ⟨⟨node, hmem, hkeep⟩, hdir⟩
    refine ⟨List.cons_ne_nil _ _, node, hsound.mem_children_iff.1 hmem, ?_, fun _ _ => hdir⟩
    rintro rfl
    cases hkeep

/-- What is met further down is met in a directory of this one. -/
theorem isTask_cons_iff {name : String} {tail : List String} (htail : tail ≠ []) :
    IsTask files dir location (name :: tail) ↔
      name ∈ sortedNames (files.children location) (·.2.isDirectory) ∧
        IsTask files (dir.join ⟨name⟩) (location ++ [name]) tail := by
  have hassoc : location ++ name :: tail = (location ++ [name]) ++ tail := by simp
  unfold IsTask
  rw [mem_sortedNames, hassoc, Path.below_cons]
  constructor
  · rintro ⟨-, node, hnode, hrest⟩
    have hdir := hsound.node?_of_append htail hnode
    exact ⟨⟨.directory, hsound.mem_children_iff.2 hdir, rfl⟩, htail, node, hnode, hrest⟩
  · rintro ⟨-, -, hrest⟩
    exact ⟨List.cons_ne_nil _ _, hrest⟩

/-- The tails are those of what is met, as long as the walk may go deep
    enough. -/
theorem mem_tailsIn {depth : Nat} (hdepth : FileTree.pathLimit ≤ depth + dir.text.utf8ByteSize)
    (h : Readable files dir location) (tail : List String) :
    tail ∈ tailsIn files depth dir ↔ IsTask files dir location tail := by
  induction depth generalizing dir location tail with
  | zero => exact absurd h.utf8ByteSize_lt (by omega)
  | succ depth ih =>
    unfold tailsIn
    rw [h.listDir_eq]
    show tail ∈ _ ++ _ ↔ _
    rw [List.mem_append, List.mem_map, List.mem_flatMap]
    have hdeeper {name : String}
        (hmem : name ∈ sortedNames (files.children location) (·.2.isDirectory)) :
        ∀ rest, rest ∈ tailsIn files depth (dir.join ⟨name⟩) ↔
          IsTask files (dir.join ⟨name⟩) (location ++ [name]) rest := by
      obtain ⟨node, hchild, hkeep⟩ := mem_sortedNames.1 hmem
      have hnode := hsound.mem_children_iff.1 hchild
      have hname : IsName name := hsound.isName_of_mem hnode name (by simp)
      obtain rfl : node = .directory := by cases node <;> simp_all [Node.isDirectory]
      have hlonger := utf8ByteSize_lt_join dir hname
      exact fun rest => ih (by omega) (h.enter hname hnode) rest
    -- a tail of one name is listed here, a longer one below its first name
    constructor
    · rintro (⟨name, hname, rfl⟩ | ⟨name, hname, htail⟩)
      · rw [List.mem_filter] at hname
        exact (isTask_singleton_iff hsound h.leads).2 ⟨hname.1, by simpa using hname.2⟩
      · obtain ⟨rest, hrest, rfl⟩ := List.mem_map.1 htail
        have htask := (hdeeper hname rest).1 hrest
        exact (isTask_cons_iff hsound htask.1).2 ⟨hname, htask⟩
    · intro htask
      rcases tail with - | ⟨name, - | ⟨next, rest⟩⟩
      · exact absurd rfl htask.1
      · obtain ⟨hname, hdir⟩ := (isTask_singleton_iff hsound h.leads).1 htask
        exact .inl ⟨name, List.mem_filter.2 ⟨hname, by simpa using hdir⟩, rfl⟩
      · obtain ⟨hname, htask⟩ := (isTask_cons_iff hsound (List.cons_ne_nil _ _)).1 htask
        exact .inr ⟨name, hname, List.mem_map.2 ⟨_, (hdeeper hname _).2 htask, rfl⟩⟩

end Tails

/-! ## The order -/

/-- One of two ways from a directory comes first: where they part, it goes on
    through something that is no directory and the other through a directory;
    or its name there has the smaller bytes. -/
def Precedes (files : FileTree) (location : Location) (first second : List String) : Prop :=
  ∃ front a restA b restB, first = front ++ a :: restA ∧ second = front ++ b :: restB ∧ a ≠ b ∧
    (files.node? (location ++ front ++ [a]) ≠ some .directory ∧
        files.node? (location ++ front ++ [b]) = some .directory ∨
      (files.node? (location ++ front ++ [a]) = some .directory ↔
        files.node? (location ++ front ++ [b]) = some .directory) ∧
        Text.encode a.toList < Text.encode b.toList)

section Order

variable {files : FileTree} {location : Location}

/-- What comes first in a directory comes first around it. -/
theorem Precedes.cons {name : String} {first second : List String}
    (h : Precedes files (location ++ [name]) first second) :
    Precedes files location (name :: first) (name :: second) := by
  obtain ⟨front, a, restA, b, restB, rfl, rfl, hne, hfirst⟩ := h
  refine ⟨name :: front, a, restA, b, restB, rfl, rfl, hne, ?_⟩
  simpa using hfirst

/-- Two ways part in one place only. -/
theorem part_once {front front' restA restB restA' restB' : List String} {a b a' b' : String}
    (hne : a ≠ b) (hne' : a' ≠ b') (hfirst : front ++ a :: restA = front' ++ a' :: restA')
    (hsecond : front ++ b :: restB = front' ++ b' :: restB') :
    front = front' ∧ a = a' ∧ b = b' := by
  induction front generalizing front' with
  | nil =>
    cases front' with
    | nil => exact ⟨rfl, (List.cons.inj hfirst).1, (List.cons.inj hsecond).1⟩
    | cons name front' =>
      exact absurd ((List.cons.inj hfirst).1.trans (List.cons.inj hsecond).1.symm) hne
  | cons name front ih =>
    cases front' with
    | nil =>
      exact absurd ((List.cons.inj hfirst).1.symm.trans (List.cons.inj hsecond).1) hne'
    | cons name' front' =>
      obtain ⟨rfl, hrest⟩ := List.cons.inj hfirst
      obtain ⟨rfl, ha, hb⟩ := ih hrest (List.cons.inj hsecond).2
      exact ⟨rfl, ha, hb⟩

/-- Of two ways only one can come first. -/
theorem Precedes.asymm {first second : List String} (h : Precedes files location first second) :
    ¬Precedes files location second first := by
  rintro ⟨front', b', restB', a', restA', hsecond, hfirst, hne', horder'⟩
  obtain ⟨front, a, restA, b, restB, rfl, rfl, hne, horder⟩ := h
  -- both orders speak of the place where the two ways part
  obtain ⟨rfl, rfl, rfl⟩ := part_once hne hne'.symm hfirst hsecond
  rcases horder with ⟨hplain, hdir⟩ | ⟨hsame, hlt⟩
  · rcases horder' with ⟨hplain', -⟩ | ⟨hsame', -⟩
    · exact hplain' hdir
    · exact hplain (hsame'.1 hdir)
  · rcases horder' with ⟨hplain', hdir'⟩ | ⟨-, hlt'⟩
    · exact hplain' (hsame.1 hdir')
    · exact absurd (List.lt_trans hlt hlt') (List.lt_irrefl _)

theorem Precedes.ne {first second : List String} (h : Precedes files location first second) :
    first ≠ second := by
  rintro rfl
  exact h.asymm h

/-- A way through something that is no directory comes before one through a
    directory. -/
theorem precedes_of_plain {a b : String} {restA restB : List String} (hne : a ≠ b)
    (ha : files.node? (location ++ [a]) ≠ some .directory)
    (hb : files.node? (location ++ [b]) = some .directory) :
    Precedes files location (a :: restA) (b :: restB) :=
  ⟨[], a, restA, b, restB, rfl, rfl, hne, .inl (by simpa using ⟨ha, hb⟩)⟩

/-- Otherwise the smaller name comes first. -/
theorem precedes_of_lt {a b : String} {restA restB : List String} (hlt : a < b)
    (hsame : files.node? (location ++ [a]) = some .directory ↔
      files.node? (location ++ [b]) = some .directory) :
    Precedes files location (a :: restA) (b :: restB) := by
  refine ⟨[], a, restA, b, restB, rfl, rfl, ?_, .inr ⟨by simpa using hsame, ?_⟩⟩
  · rintro rfl
    exact absurd hlt (String.lt_irrefl a)
  · exact Text.encode_lt_encode_iff.2 hlt

/-- What lies behind names of one kind in order is in order, if it is behind
    each of them. -/
theorem pairwise_flatMap_precedes {names : List String} (hnames : names.Pairwise (· < ·))
    (hsame : ∀ a ∈ names, ∀ b ∈ names, files.node? (location ++ [a]) = some .directory ↔
      files.node? (location ++ [b]) = some .directory)
    {behind : String → List (List String)}
    (hbehind : ∀ name ∈ names, (behind name).Pairwise (Precedes files (location ++ [name]))) :
    (names.flatMap fun name => (behind name).map (name :: ·)).Pairwise (Precedes files location) := by
  rw [List.pairwise_flatMap]
  constructor
  · intro name hname
    rw [List.pairwise_map]
    exact (hbehind name hname).imp Precedes.cons
  · refine hnames.imp_of_mem ?_
    intro a b ha hb hlt first hfirst second hsecond
    obtain ⟨restA, -, rfl⟩ := List.mem_map.1 hfirst
    obtain ⟨restB, -, rfl⟩ := List.mem_map.1 hsecond
    exact precedes_of_lt hlt (hsame a ha b hb)

/-- Ways that begin with something that is no directory come before those that
    begin with one. -/
theorem pairwise_append_precedes {plain under : List (List String)}
    (hplain : plain.Pairwise (Precedes files location))
    (hunder : under.Pairwise (Precedes files location))
    (hfirst : ∀ first ∈ plain, ∃ a rest, first = a :: rest ∧
      files.node? (location ++ [a]) ≠ some .directory)
    (hsecond : ∀ second ∈ under, ∃ b rest, second = b :: rest ∧
      files.node? (location ++ [b]) = some .directory) :
    (plain ++ under).Pairwise (Precedes files location) := by
  refine List.pairwise_append.2 ⟨hplain, hunder, ?_⟩
  intro first hmem second hmem'
  obtain ⟨a, restA, rfl, ha⟩ := hfirst first hmem
  obtain ⟨b, restB, rfl, hb⟩ := hsecond second hmem'
  refine precedes_of_plain ?_ ha hb
  rintro rfl
  exact ha hb

variable (hsound : files.Sound)

include hsound

theorem node?_of_mem_sortedNames {keep : String × Node → Bool} {name : String}
    (h : name ∈ sortedNames (files.children location) keep) :
    ∃ node, files.node? (location ++ [name]) = some node ∧ keep (name, node) = true := by
  obtain ⟨node, hmem, hkeep⟩ := mem_sortedNames.1 h
  exact ⟨node, hsound.mem_children_iff.1 hmem, hkeep⟩

theorem node?_eq_directory_of_mem {name : String}
    (h : name ∈ sortedNames (files.children location) (·.2.isDirectory)) :
    files.node? (location ++ [name]) = some .directory := by
  obtain ⟨node, hnode, hkeep⟩ := node?_of_mem_sortedNames hsound h
  cases node with
  | directory => exact hnode
  | _ => cases hkeep

theorem node?_ne_directory_of_mem {name : String}
    (h : name ∈ sortedNames (files.children location) (!·.2.isDirectory)) :
    files.node? (location ++ [name]) ≠ some .directory := by
  obtain ⟨node, hnode, hkeep⟩ := node?_of_mem_sortedNames hsound h
  rintro hdir
  rw [hnode] at hdir
  cases hdir
  cases hkeep

/-- The tails are in order. -/
theorem pairwise_tailsIn (depth : Nat) {dir : Path} (h : Readable files dir location) :
    (tailsIn files depth dir).Pairwise (Precedes files location) := by
  induction depth generalizing dir location with
  | zero => exact .nil
  | succ depth ih =>
    unfold tailsIn
    rw [h.listDir_eq]
    show (_ ++ _ : List (List String)).Pairwise _
    have hnames (keep : String × Node → Bool) :=
      pairwise_sortedNames (hsound.nodup_children location) keep
    -- files in order, then the subdirectories in order, and no file behind any of these
    refine pairwise_append_precedes ?_ (pairwise_flatMap_precedes (hnames _) ?_ ?_) ?_ ?_
    · rw [List.pairwise_map]
      refine ((hnames (!·.2.isDirectory)).filter _).imp_of_mem ?_
      intro a b ha hb hlt
      have ha := node?_ne_directory_of_mem hsound (List.mem_filter.1 ha).1
      have hb := node?_ne_directory_of_mem hsound (List.mem_filter.1 hb).1
      exact precedes_of_lt hlt (iff_of_false ha hb)
    · intro a ha b hb
      exact iff_of_true (node?_eq_directory_of_mem hsound ha) (node?_eq_directory_of_mem hsound hb)
    · intro name hname
      have hnode := node?_eq_directory_of_mem hsound hname
      exact ih (h.enter (hsound.isName_of_mem hnode name (by simp)) hnode)
    · intro first hfirst
      obtain ⟨a, ha, rfl⟩ := List.mem_map.1 hfirst
      exact ⟨a, [], rfl, node?_ne_directory_of_mem hsound (List.mem_filter.1 ha).1⟩
    · intro second hsecond
      obtain ⟨b, hb, hsecond⟩ := List.mem_flatMap.1 hsecond
      obtain ⟨rest, -, rfl⟩ := List.mem_map.1 hsecond
      exact ⟨b, rest, rfl, node?_eq_directory_of_mem hsound hb⟩

/-- A walk through readable directories meets a pair for each tail. -/
theorem itemsIn_eq_tailsIn {referenceRoot renderRoot : Path} {depth : Nat} {dir : Path}
    (hdepth : FileTree.pathLimit ≤ depth + dir.text.utf8ByteSize)
    (h : Readable files dir location) :
    itemsIn files referenceRoot renderRoot depth dir
      = (tailsIn files depth dir).map fun tail =>
          FilePair.ofReference referenceRoot renderRoot (dir.below tail) := by
  induction depth generalizing dir location with
  | zero => exact absurd h.utf8ByteSize_lt (by omega)
  | succ depth ih =>
    unfold itemsIn tailsIn
    rw [h.listDir_eq]
    simp only [inOrder, List.map_append, List.map_map, List.map_flatMap, List.filter_map]
    congr 1
    rw [List.flatMap_def, List.flatMap_def]
    congr 1
    apply List.map_congr_left
    intro name hname
    have hnode := node?_eq_directory_of_mem hsound hname
    have hname : IsName name := hsound.isName_of_mem hnode name (by simp)
    have hlonger := utf8ByteSize_lt_join dir hname
    rw [ih (by omega) (h.enter hname hnode)]
    rfl

end Order

/-! ## Whole walks -/

section Whole

variable {files : FileTree} {referenceRoot : Path} {location : Location}

/-- A walk from a root that is a directory, or a link to one, goes through what
    lies below. -/
theorem items_eq_itemsIn_of_locate (renderRoot : Path)
    (h : files.locate true referenceRoot = .ok ⟨location, some .directory⟩) :
    items files referenceRoot renderRoot
      = itemsIn files referenceRoot renderRoot depthLimit referenceRoot := by
  obtain ⟨hfollowed, hfound⟩ := FileTree.inspect_false_of_locate h
  unfold items
  rcases hfound with hdir | ⟨target, hlink⟩
  · rw [hdir]
  · rw [hlink, hfollowed]

theorem items_eq_itemsIn (renderRoot : Path) (h : Readable files referenceRoot location) :
    items files referenceRoot renderRoot
      = itemsIn files referenceRoot renderRoot depthLimit referenceRoot :=
  items_eq_itemsIn_of_locate renderRoot h.leads

/-- A walk may go as deep as any path that can be read. -/
theorem pathLimit_le_depthLimit (dir : Path) :
    FileTree.pathLimit ≤ depthLimit + dir.text.utf8ByteSize :=
  Nat.le_add_right _ _

/-- What a tail goes through are names. -/
theorem names_of_mem_tailsIn (hsound : files.Sound) (h : Readable files referenceRoot location)
    {tail : List String} (htail : tail ∈ tailsIn files depthLimit referenceRoot) :
    tail ≠ [] ∧ ∀ name ∈ tail, IsName name := by
  obtain ⟨hsome, node, hnode, -⟩ := (mem_tailsIn hsound (pathLimit_le_depthLimit _) h tail).1 htail
  exact ⟨hsome, fun name hname =>
    hsound.isName_of_mem hnode name (List.mem_append_right _ hname)⟩

/-- What is met are the pairs of the tails. -/
theorem items_eq_tailsIn (hsound : files.Sound) (renderRoot : Path)
    (hroot : referenceRoot.text ≠ "") (h : Readable files referenceRoot location) :
    items files referenceRoot renderRoot = (tailsIn files depthLimit referenceRoot).map
      fun tail => .ok (FilePair.below referenceRoot renderRoot tail) := by
  rw [items_eq_itemsIn renderRoot h, itemsIn_eq_tailsIn hsound (pathLimit_le_depthLimit _) h]
  apply List.map_congr_left
  intro tail htail
  obtain ⟨hsome, hnames⟩ := names_of_mem_tailsIn hsound h htail
  exact FilePair.ofReference_below renderRoot hroot hsome hnames

/-- Whether things can be read and are met does not depend on the order of the
    entries. -/
theorem Readable.congr {files' : FileTree} (h : Readable files referenceRoot location)
    (hworking : files.workingDir = files'.workingDir)
    (hnode : ∀ location, files.node? location = files'.node? location) :
    Readable files' referenceRoot location ∧
      ∀ tail, IsTask files referenceRoot location tail ↔
        IsTask files' referenceRoot location tail := by
  have hlocate := FileTree.locate_congr hworking hnode
  refine ⟨⟨by rw [← hlocate]; exact h.leads, ?_⟩, ?_⟩
  · intro tail htail
    rw [← hnode] at htail
    obtain ⟨entries, hentries⟩ := h.listable tail htail
    obtain ⟨dir, hdir, -⟩ := FileTree.listDir_eq_ok_iff.1 hentries
    rw [hlocate] at hdir
    exact ⟨_, FileTree.listDir_eq_ok_iff.2 ⟨dir, hdir, rfl⟩⟩
  · intro tail
    have hisDir (p : Path) : files.isDir p = files'.isDir p := by
      rw [Bool.eq_iff_iff, FileTree.isDir_iff, FileTree.isDir_iff]
      simp only [hlocate]
    unfold IsTask
    simp only [hnode, hisDir]

/-- Ways in order are decided by what they are. -/
theorem eq_of_pairwise_precedes {tails tails' : List (List String)}
    (h : tails.Pairwise (Precedes files location))
    (h' : tails'.Pairwise (Precedes files location))
    (hmem : ∀ tail, tail ∈ tails ↔ tail ∈ tails') : tails = tails' := by
  have hperm : tails.Perm tails' :=
    (List.perm_ext_iff_of_nodup (h.imp Precedes.ne) (h'.imp Precedes.ne)).2 hmem
  exact hperm.eq_of_pairwise (fun _ _ _ _ hab hba => absurd hba hab.asymm) h h'

/-- What a walk meets below a root whose directories can be read: a pair for
    each file and each link to no directory, each once, in an order that does
    not depend on how directories list what they hold. -/
theorem items_ordered (hsound : files.Sound) (renderRoot : Path)
    (hroot : referenceRoot.text ≠ "") (h : Readable files referenceRoot location) :
    ∃ tails : List (List String),
      items files referenceRoot renderRoot
        = (tails.map fun tail => .ok (FilePair.below referenceRoot renderRoot tail)) ∧
      (∀ tail ∈ tails,
        (FilePair.below referenceRoot renderRoot tail).relative.components = tail.map .name) ∧
      (∀ tail, tail ∈ tails ↔ IsTask files referenceRoot location tail) ∧
      tails.Nodup ∧
      tails.Pairwise (Precedes files location) ∧
      ∀ files' : FileTree, files'.Sound → files'.workingDir = files.workingDir →
        files'.entries.Perm files.entries →
          items files' referenceRoot renderRoot = items files referenceRoot renderRoot := by
  have hdeep := pathLimit_le_depthLimit referenceRoot
  have hmem := mem_tailsIn hsound hdeep h
  have hordered := pairwise_tailsIn hsound depthLimit h
  refine ⟨tailsIn files depthLimit referenceRoot, items_eq_tailsIn hsound renderRoot hroot h,
    fun tail htail => Path.components_intercalate (names_of_mem_tailsIn hsound h htail).2, hmem,
    hordered.imp Precedes.ne, hordered, fun files' hsound' hworking hperm => ?_⟩
  -- the same entries in another order are the same nodes
  have hnode (location : Location) : files.node? location = files'.node? location := by
    by_cases hlocation : location = []
    · rw [hlocation, FileTree.node?_nil, FileTree.node?_nil]
    · apply Option.ext
      intro node
      rw [hsound.node?_eq_some_iff hlocation, hsound'.node?_eq_some_iff hlocation]
      exact hperm.mem_iff.symm
  obtain ⟨h', htask⟩ := h.congr hworking.symm hnode
  have htails : tailsIn files' depthLimit referenceRoot = tailsIn files depthLimit referenceRoot := by
    refine eq_of_pairwise_precedes ?_ hordered ?_
    · refine (pairwise_tailsIn hsound' depthLimit h').imp ?_
      intro first second hprecedes
      unfold Precedes at hprecedes ⊢
      simpa only [hnode] using hprecedes
    · intro tail
      rw [mem_tailsIn hsound' hdeep h', hmem, htask]
  rw [items_eq_tailsIn hsound renderRoot hroot h, items_eq_tailsIn hsound' renderRoot hroot h',
    htails]

end Whole

/-! ## A tree with links -/

namespace Linked

/-- A directory with a file and, beside it, a link to the directory, a link to
    nothing and another file. -/
def files : FileTree where
  workingDir := []
  entries := [(["ref"], .directory), (["ref", "b"], .directory), (["ref", "b", "x"], .file .empty false),
    (["ref", "d"], .link ⟨"b"⟩), (["ref", "c"], .file .empty false), (["ref", "a"], .link ⟨"nowhere"⟩)]

/-- The link to nothing is met, that to the directory is not. -/
theorem items_of_links : files.Sound ∧ Readable files ⟨"ref"⟩ ["ref"] ∧
    ∃ tails : List (List String),
      items files ⟨"ref"⟩ ⟨"out"⟩ = (tails.map fun tail => .ok (FilePair.below ⟨"ref"⟩ ⟨"out"⟩ tail)) ∧
      ["a"] ∈ tails ∧ ["b", "x"] ∈ tails ∧ ["d"] ∉ tails := by
  have hsound : files.Sound := by decide
  have hreadable : Readable files ⟨"ref"⟩ ["ref"] := by
    refine ⟨rfl, ?_⟩
    intro tail htail
    rw [hsound.node?_eq_some_iff (by simp)] at htail
    have htails : tail = [] ∨ tail = ["b"] := by simpa [files] using htail
    rcases htails with rfl | rfl <;> exact ⟨_, rfl⟩
  obtain ⟨tails, hitems, -, hmem, -⟩ :=
    items_ordered hsound ⟨"out"⟩ (by decide) hreadable
  refine ⟨hsound, hreadable, tails, hitems, ?_, ?_, ?_⟩
  · exact (hmem _).2 ⟨by decide, .link ⟨"nowhere"⟩, rfl, by decide, fun _ _ => rfl⟩
  · exact (hmem _).2 ⟨by decide, .file .empty false, rfl, by decide, fun _ h => nomatch h⟩
  · intro htail
    obtain ⟨-, node, hnode, -, hlink⟩ := (hmem _).1 htail
    cases hnode
    exact absurd (hlink ⟨"b"⟩ rfl) (by decide)

end Linked

end Walk

end RenderCheck
