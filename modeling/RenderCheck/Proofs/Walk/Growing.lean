import RenderCheck.Proofs.FileTree.Growth
import RenderCheck.Proofs.Walk.Order

/-! # Walks over trees that grow

    A walk that goes on while files are written lists each directory at some
    moment, and what it lists may be new. But what was there from the first
    and stays to the last is met, and what is met and was not there is a new
    file. So if the walk leaves what can be met as it was, then it meets what
    a walk over the tree at rest meets.

    * **Paths and places**: a path means the same place as the tree grows.
    * **Walked directories** (`Walked`), put together from what they list.
    * **Nothing new**: the tails are those of the tree at rest
      (`Walked.eq_tailsIn`). -/

namespace RenderCheck

namespace Walk

/-! ## Paths and places -/

/-- Whatever a tree grows into, a path leads to the directory at a location
    once there is one, unless it is refused for what it is. -/
def Means (low : FileTree) (dir : Path) (location : Location) : Prop :=
  ∃ verdict : Except IoError Unit, ∀ t : FileTree, t.Sound → low.Grows t →
    t.node? location = some .directory →
      t.locate true dir = verdict.map fun _ => ⟨location, some .directory⟩

section Means

variable {low : FileTree} {dir : Path} {location : Location}

/-- A path that leads to a directory means it. -/
theorem means_of_locate (hlow : low.Sound)
    (h : low.locate true dir = .ok ⟨location, some .directory⟩) : Means low dir location := by
  refine ⟨.ok (), ?_⟩
  intro t _ hgrows hdir
  rw [hgrows.locate hlow h, hdir]
  rfl

/-- A path that can be listed once leads to its directory always. -/
theorem Means.leads (h : Means low dir location) {here : FileTree} (hhere : here.Sound)
    (hgrows : low.Grows here) (hdir : here.node? location = some .directory)
    {entries : List (String × Node)} (hlist : here.listDir dir = .ok entries) :
    entries = here.children location ∧
      ∀ t : FileTree, t.Sound → low.Grows t → t.node? location = some .directory →
        t.locate true dir = .ok ⟨location, some .directory⟩ := by
  obtain ⟨verdict, hverdict⟩ := h
  obtain ⟨found, hfound, hentries⟩ := FileTree.listDir_eq_ok_iff.1 hlist
  have hplace := hverdict here hhere hgrows hdir
  rw [hfound] at hplace
  cases verdict with
  | error error => cases hplace
  | ok _ =>
    cases hplace
    exact ⟨hentries, hverdict⟩

/-- Where a path leads to a directory always, a name further it means what
    lies there. -/
theorem means_join
    (h : ∀ t : FileTree, t.Sound → low.Grows t → t.node? location = some .directory →
      t.locate true dir = .ok ⟨location, some .directory⟩)
    {name : String} (hname : IsName name) : Means low (dir.join ⟨name⟩) (location ++ [name]) := by
  have hplace (t : FileTree) (ht : t.Sound) (hgrows : low.Grows t)
      (hdir : t.node? (location ++ [name]) = some .directory) :=
    FileTree.locate_join_of_not_link
      (h t ht hgrows (ht.node?_of_append (List.cons_ne_nil name []) hdir)) hname (by simp [hdir]) true
  cases hrefused : FileTree.refusal? (dir.join ⟨name⟩) with
  | some error =>
    refine ⟨.error error, ?_⟩
    intro t ht hgrows hdir
    rw [hplace t ht hgrows hdir, hrefused]
    rfl
  | none =>
    -- the length of the path was no reason to refuse it, that of the name may be
    by_cases hlong : FileTree.nameLimit < name.utf8ByteSize
    · refine ⟨.error .nameTooLong, ?_⟩
      intro t ht hgrows hdir
      rw [hplace t ht hgrows hdir, hrefused]
      exact if_pos hlong
    · refine ⟨.ok (), ?_⟩
      intro t ht hgrows hdir
      rw [hplace t ht hgrows hdir, hrefused, hdir]
      exact if_neg hlong

end Means

/-! ## Walked directories -/

/-- A file below a location that came while a tree grew. -/
def IsNewFile (low high : FileTree) (location : Location) (tail : List String) : Prop :=
  tail ≠ [] ∧ low.node? (location ++ tail) = none ∧
    ∃ content executable, high.node? (location ++ tail) = some (.file content executable)

/-- A new file can be met. -/
theorem IsNewFile.isTask {low high : FileTree} {location : Location} {tail : List String}
    (h : IsNewFile low high location tail) (dir : Path) : IsTask high dir location tail := by
  obtain ⟨hsome, -, content, executable, hfile⟩ := h
  exact ⟨hsome, _, hfile, by simp, by simp⟩

/-- What a walk that met some tails in a directory says of the tree before and
    the tree after. -/
structure Walked (low high : FileTree) (dir : Path) (location : Location)
    (tails : List (List String)) : Prop where
  /-- A directory that was there could be read. -/
  readable : low.node? location = some .directory → Readable low dir location
  /-- What was met is in order. -/
  ordered : tails.Pairwise (Precedes high location)
  /-- What was met was there, or is a new file. -/
  met : ∀ tail ∈ tails, IsTask low dir location tail ∨ IsNewFile low high location tail
  /-- What was there and still is was met. -/
  all : ∀ tail, IsTask low dir location tail → IsTask high dir location tail → tail ∈ tails

section Listing

variable {low here high : FileTree} (hlow : low.Sound) (hhere : here.Sound) (hhigh : high.Sound)
  (hbelow : low.Grows here) (habove : here.Grows high)
  {dir : Path} {location : Location} (hdir : here.node? location = some .directory)
  (hleads : ∀ t : FileTree, t.Sound → low.Grows t → t.node? location = some .directory →
    t.locate true dir = .ok ⟨location, some .directory⟩)

/-- What is no directory becomes none. -/
theorem node?_ne_directory (habove : here.Grows high) {location : Location} {node : Node}
    (hnode : here.node? location = some node) (hplain : node ≠ .directory) :
    high.node? location ≠ some .directory := by
  intro hhigh
  cases node with
  | directory => exact hplain rfl
  | link target =>
    rw [habove.link.2 hnode] at hhigh
    cases hhigh
  | file content executable =>
    obtain ⟨content', hfile⟩ := habove.file hnode
    rw [hfile] at hhigh
    cases hhigh

include hhere hbelow habove in
/-- A name that was listed and led to no directory was there, or is that of a
    new file. -/
theorem met_of_listed {name : String}
    (hname : name ∈ sortedNames (here.children location) (!·.2.isDirectory))
    (hfree : low.isDir (dir.join ⟨name⟩) = false) :
    IsTask low dir location [name] ∨ IsNewFile low high location [name] := by
  obtain ⟨node, hnode, hkeep⟩ := node?_of_mem_sortedNames hhere hname
  cases node with
  | directory => cases hkeep
  | link target =>
    exact .inl ⟨List.cons_ne_nil _ _, _, hbelow.link.1 hnode, by simp, fun _ _ => hfree⟩
  | file content executable =>
    cases hbefore : low.node? (location ++ [name]) with
    | none =>
      obtain ⟨content', hfile⟩ := habove.file hnode
      exact .inr ⟨List.cons_ne_nil _ _, hbefore, content', executable, hfile⟩
    | some before =>
      refine .inl ⟨List.cons_ne_nil _ _, before, hbefore, ?_, fun _ _ => hfree⟩
      rintro rfl
      rw [hbelow.directory hbefore] at hnode
      cases hnode

include hhere hbelow in
/-- A name that can be met is listed later. -/
theorem listed_of_isTask {name : String} (h : IsTask low dir location [name]) :
    name ∈ sortedNames (here.children location) (!·.2.isDirectory) := by
  obtain ⟨-, node, hnode, hplain, -⟩ := h
  rw [mem_sortedNames]
  cases node with
  | directory => exact absurd rfl hplain
  | link target => exact ⟨_, hhere.mem_children_iff.2 (hbelow.link.2 hnode), rfl⟩
  | file content executable =>
    obtain ⟨content', hfile⟩ := hbelow.file hnode
    exact ⟨_, hhere.mem_children_iff.2 hfile, rfl⟩

variable {alone under : String → List (List String)}
  (halone : ∀ name ∈ sortedNames (here.children location) (!·.2.isDirectory),
    alone name = [[]] ∧ low.isDir (dir.join ⟨name⟩) = false ∨
      alone name = [] ∧ high.isDir (dir.join ⟨name⟩) = true)
  (hunder : ∀ name ∈ sortedNames (here.children location) (·.2.isDirectory),
    Walked low high (dir.join ⟨name⟩) (location ++ [name]) (under name))

include hhere habove halone hunder in
/-- What is met in a directory is in order: the names of those that are no
    directories, then what is met under directories. -/
theorem ordered_of_listing :
    ((sortedNames (here.children location) (!·.2.isDirectory)).flatMap (fun name =>
        (alone name).map (name :: ·)) ++
      (sortedNames (here.children location) (·.2.isDirectory)).flatMap fun name =>
        (under name).map (name :: ·)).Pairwise (Precedes high location) := by
  have hnames (keep : String × Node → Bool) :=
    pairwise_sortedNames (hhere.nodup_children location) keep
  -- what is listed keeps its kind, so the order can be told from the last tree
  have hplain {name : String}
      (hname : name ∈ sortedNames (here.children location) (!·.2.isDirectory)) :
      high.node? (location ++ [name]) ≠ some .directory := by
    obtain ⟨node, hnode, hkeep⟩ := node?_of_mem_sortedNames hhere hname
    refine node?_ne_directory habove hnode ?_
    rintro rfl
    cases hkeep
  have hdirs {name : String}
      (hname : name ∈ sortedNames (here.children location) (·.2.isDirectory)) :
      high.node? (location ++ [name]) = some .directory :=
    habove.directory (node?_eq_directory_of_mem hhere hname)
  refine pairwise_append_precedes (pairwise_flatMap_precedes (hnames _) ?_ ?_)
    (pairwise_flatMap_precedes (hnames _) ?_ ?_) ?_ ?_
  · intro a ha b hb
    exact iff_of_false (hplain ha) (hplain hb)
  · intro name hname
    rcases halone name hname with ⟨heq, -⟩ | ⟨heq, -⟩ <;> simp [heq]
  · intro a ha b hb
    exact iff_of_true (hdirs ha) (hdirs hb)
  · intro name hname
    exact (hunder name hname).ordered
  · intro first hfirst
    obtain ⟨a, ha, hfirst⟩ := List.mem_flatMap.1 hfirst
    obtain ⟨rest, -, rfl⟩ := List.mem_map.1 hfirst
    exact ⟨a, rest, rfl, hplain ha⟩
  · intro second hsecond
    obtain ⟨b, hb, hsecond⟩ := List.mem_flatMap.1 hsecond
    obtain ⟨rest, -, rfl⟩ := List.mem_map.1 hsecond
    exact ⟨b, rest, rfl, hdirs hb⟩

include hlow hhere hhigh hbelow habove hdir hleads halone hunder

/-- A directory is walked by listing it once, looking at each name in it that
    is not a directory's, and walking those that are. -/
theorem walked_of_listing :
    Walked low high dir location
      ((sortedNames (here.children location) (!·.2.isDirectory)).flatMap (fun name =>
          (alone name).map (name :: ·)) ++
        (sortedNames (here.children location) (·.2.isDirectory)).flatMap fun name =>
          (under name).map (name :: ·)) := by
  have hunderOf {name : String} (hnode : low.node? (location ++ [name]) = some .directory) :
      name ∈ sortedNames (here.children location) (·.2.isDirectory) :=
    mem_sortedNames.2 ⟨_, hhere.mem_children_iff.2 (hbelow.directory hnode), rfl⟩
  refine ⟨?_, ordered_of_listing hhere habove halone hunder, ?_, ?_⟩
  -- a directory below was there when this one was listed, and was walked
  · intro hthere
    refine ⟨hleads low hlow (.refl low) hthere, ?_⟩
    intro tail htail
    cases tail with
    | nil => exact ⟨_, FileTree.listDir_eq_ok_iff.2 ⟨_, hleads low hlow (.refl low) hthere, rfl⟩⟩
    | cons name rest =>
      rw [List.append_cons] at htail
      have hnode : low.node? (location ++ [name]) = some .directory := by
        by_cases hrest : rest = []
        · rwa [hrest, List.append_nil] at htail
        · exact hlow.node?_of_append hrest htail
      exact ((hunder name (hunderOf hnode)).readable hnode).listable rest htail
  -- what was met was listed here, or met below a directory that was
  · intro tail htail
    rcases List.mem_append.1 htail with htail | htail
    · obtain ⟨name, hname, htail⟩ := List.mem_flatMap.1 htail
      rcases halone name hname with ⟨heq, hfree⟩ | ⟨heq, -⟩
      · obtain rfl : tail = [name] := by simpa [heq] using htail
        exact met_of_listed hhere hbelow habove hname hfree
      · simp [heq] at htail
    · obtain ⟨name, hname, htail⟩ := List.mem_flatMap.1 htail
      obtain ⟨rest, hrest, rfl⟩ := List.mem_map.1 htail
      refine ((hunder name hname).met rest hrest).imp ?_ ?_
      · rintro ⟨hsome, node, hnode, hwhat⟩
        exact ⟨List.cons_ne_nil _ _, node, by rwa [List.append_cons], hwhat⟩
      · rintro ⟨-, hnone, hfile⟩
        rw [← List.append_cons] at hnone hfile
        exact ⟨List.cons_ne_nil _ _, hnone, hfile⟩
  -- what was there and stays could not be taken for a directory on the way
  · intro tail hbefore hafter
    have hleadsHigh := hleads high hhigh (hbelow.trans habove) (habove.directory hdir)
    rcases tail with - | ⟨name, - | ⟨next, rest⟩⟩
    · exact absurd rfl hbefore.1
    · have hname := listed_of_isTask hhere hbelow hbefore
      refine List.mem_append_left _ (List.mem_flatMap.2 ⟨name, hname, ?_⟩)
      rcases halone name hname with ⟨heq, -⟩ | ⟨-, htaken⟩
      · simp [heq]
      · rw [hafter.isDir_eq_false hhigh hleadsHigh] at htaken
        cases htaken
    · have hsome : next :: rest ≠ [] := List.cons_ne_nil _ _
      obtain ⟨hlisted, hbefore⟩ := (isTask_cons_iff hlow hsome).1 hbefore
      obtain ⟨-, hafter⟩ := (isTask_cons_iff hhigh hsome).1 hafter
      have hname := hunderOf (node?_eq_directory_of_mem hlow hlisted)
      exact List.mem_append_right _ (List.mem_flatMap.2 ⟨name, hname,
        List.mem_map.2 ⟨_, (hunder name hname).all _ hbefore hafter, rfl⟩⟩)

end Listing

/-! ## Nothing new -/

section Unchanged

variable {low high : FileTree} {dir : Path} {location : Location}

/-- What comes first in a tree came first in what it grew from, if both were
    there. -/
theorem Precedes.of_grows (hlow : low.Sound) (hgrows : low.Grows high) {first second : List String}
    (hfirst : ∃ node, low.node? (location ++ first) = some node)
    (hsecond : ∃ node, low.node? (location ++ second) = some node)
    (h : Precedes high location first second) : Precedes low location first second := by
  obtain ⟨front, a, restA, b, restB, rfl, rfl, hne, horder⟩ := h
  -- on the way to something that was there nothing else became a directory
  have hsame {name : String} {rest : List String}
      (hthere : ∃ node, low.node? (location ++ (front ++ name :: rest)) = some node) :
      low.node? (location ++ front ++ [name]) = some .directory ↔
        high.node? (location ++ front ++ [name]) = some .directory := by
    refine ⟨hgrows.directory, ?_⟩
    intro hdir
    obtain ⟨node, hnode⟩ := hthere
    rw [← List.append_assoc, List.append_cons] at hnode
    by_cases hrest : rest = []
    · rw [hrest, List.append_nil] at hnode
      by_contra hplain
      refine node?_ne_directory hgrows hnode ?_ hdir
      rintro rfl
      exact hplain hnode
    · exact hlow.node?_of_append hrest hnode
  refine ⟨front, a, restA, b, restB, rfl, rfl, hne, ?_⟩
  rw [ne_eq, hsame hfirst, hsame hsecond]
  exact horder

/-- Where a walk leaves what can be met as it was, it meets what there is to be
    met in the order of a tree at rest. -/
theorem Walked.eq_tailsIn (hlow : low.Sound) (hgrows : low.Grows high) {tails : List (List String)}
    (h : Walked low high dir location tails) (hthere : low.node? location = some .directory)
    {depth : Nat} (hdepth : FileTree.pathLimit ≤ depth + dir.text.utf8ByteSize)
    (hsame : ∀ tail, IsTask low dir location tail ↔ IsTask high dir location tail) :
    tails = tailsIn low depth dir := by
  have hreadable := h.readable hthere
  -- what is met decides: both ways of going through it are in order
  have hmem (tail : List String) : tail ∈ tails ↔ IsTask low dir location tail := by
    constructor
    · intro htail
      rcases h.met tail htail with htask | hnew
      · exact htask
      · exact (hsame tail).2 (hnew.isTask dir)
    · intro htask
      exact h.all tail htask ((hsame tail).1 htask)
  refine eq_of_pairwise_precedes (h.ordered.imp_of_mem ?_) (pairwise_tailsIn hlow depth hreadable) ?_
  · intro first second hfirst hsecond hprecedes
    obtain ⟨-, node, hnode, -⟩ := (hmem _).1 hfirst
    obtain ⟨-, node', hnode', -⟩ := (hmem _).1 hsecond
    exact hprecedes.of_grows hlow hgrows ⟨node, hnode⟩ ⟨node', hnode'⟩
  · intro tail
    rw [hmem, mem_tailsIn hlow hdepth hreadable]

end Unchanged

end Walk

end RenderCheck
