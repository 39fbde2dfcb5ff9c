import Mathlib.Data.List.Induction
import Mathlib.Data.List.Nodup
import RenderCheck.FileTree.Basic
import RenderCheck.Proofs.Path.Names

/-! # Entries of file trees

    A file tree is sound if it is a tree: a location has one entry, an entry
    lies in a directory, and the names are names. Then what a directory lists
    is what lies in it, each name once, and putting an entry into a directory
    keeps the tree sound. -/

namespace RenderCheck.FileTree

/-! ## Sound trees -/

/-- The entries make up a tree. -/
structure Sound (t : FileTree) : Prop where
  /-- A location has at most one entry. -/
  distinct : (t.entries.map Prod.fst).Nodup
  /-- An entry lies in a directory, and none is at the root. -/
  nested : ∀ entry ∈ t.entries, entry.1 ≠ [] ∧ t.node? entry.1.dropLast = some .directory
  /-- Locations consist of names. -/
  named : ∀ entry ∈ t.entries, ∀ name ∈ entry.1, IsName name
  /-- Relative paths start in a directory. -/
  working : t.node? t.workingDir = some .directory

instance (t : FileTree) : Decidable t.Sound :=
  decidable_of_iff ((t.entries.map Prod.fst).Nodup ∧
      (∀ entry ∈ t.entries, entry.1 ≠ [] ∧ t.node? entry.1.dropLast = some .directory) ∧
      (∀ entry ∈ t.entries, ∀ name ∈ entry.1, IsName name) ∧
      t.node? t.workingDir = some .directory)
    ⟨fun ⟨h₁, h₂, h₃, h₄⟩ => ⟨h₁, h₂, h₃, h₄⟩, fun ⟨h₁, h₂, h₃, h₄⟩ => ⟨h₁, h₂, h₃, h₄⟩⟩

@[simp] theorem node?_nil (t : FileTree) : t.node? [] = some .directory := rfl

theorem node?_of_ne_nil (t : FileTree) {location : Location} (h : location ≠ []) :
    t.node? location = t.entries.lookup location := by
  simp [node?, h]

theorem lookup_cons_if (key location : Location) (node : Node) (entries : List (Location × Node)) :
    ((key, node) :: entries).lookup location =
      if location = key then some node else entries.lookup location := by
  rw [List.lookup_cons]
  by_cases h : location = key
  · simp [h]
  · rw [beq_eq_false_iff_ne.2 h, if_neg h]

/-- Where every location occurs once, looking it up finds its node. -/
theorem lookup_of_mem {entries : List (Location × Node)} (h : (entries.map Prod.fst).Nodup)
    {location : Location} {node : Node} (hmem : (location, node) ∈ entries) :
    entries.lookup location = some node := by
  induction entries with
  | nil => cases hmem
  | cons entry entries ih =>
    obtain ⟨key, value⟩ := entry
    rw [List.map_cons, List.nodup_cons] at h
    rw [lookup_cons_if]
    rcases List.mem_cons.1 hmem with heq | hrest
    · obtain ⟨rfl, rfl⟩ := Prod.mk.inj heq
      simp
    · have hne : location ≠ key := by
        rintro rfl
        exact h.1 (List.mem_map.2 ⟨_, hrest, rfl⟩)
      rw [if_neg hne, ih h.2 hrest]

theorem mem_of_lookup {entries : List (Location × Node)} {location : Location} {node : Node}
    (h : entries.lookup location = some node) : (location, node) ∈ entries := by
  obtain ⟨before, after, rfl, -⟩ := List.lookup_eq_some_iff.1 h
  simp

/-- The node at a location other than the root is that of its entry. -/
theorem Sound.node?_eq_some_iff {t : FileTree} (h : t.Sound) {location : Location} {node : Node}
    (hroot : location ≠ []) : t.node? location = some node ↔ (location, node) ∈ t.entries := by
  rw [node?_of_ne_nil t hroot]
  exact ⟨mem_of_lookup, lookup_of_mem h.distinct⟩

/-- What lies somewhere below the root lies in a directory. -/
theorem Sound.node?_dropLast {t : FileTree} (h : t.Sound) {location : Location} {node : Node}
    (hnode : t.node? location = some node) : t.node? location.dropLast = some .directory := by
  by_cases hroot : location = []
  · subst hroot
    rfl
  · exact (h.nested _ ((h.node?_eq_some_iff hroot).1 hnode)).2

/-- What lies in something lies in a directory, however deep. -/
theorem Sound.node?_of_append {t : FileTree} (h : t.Sound) {location : Location}
    {names : List String} (hnames : names ≠ []) {node : Node}
    (hnode : t.node? (location ++ names) = some node) :
    t.node? location = some .directory := by
  -- from the last name upwards: what holds an entry is a directory
  induction names using List.reverseRecOn generalizing node with
  | nil => exact absurd rfl hnames
  | append_singleton names name ih =>
    have hparent := h.node?_dropLast hnode
    rw [← List.append_assoc, List.dropLast_concat] at hparent
    by_cases hsome : names = []
    · simpa [hsome] using hparent
    · exact ih hsome hparent

/-- The names on the way to an entry are names. -/
theorem Sound.isName_of_mem {t : FileTree} (h : t.Sound) {location : Location} {node : Node}
    (hnode : t.node? location = some node) : ∀ name ∈ location, IsName name := by
  by_cases hroot : location = []
  · subst hroot
    simp
  · exact h.named _ ((h.node?_eq_some_iff hroot).1 hnode)

/-! ## What directories hold -/

/-- The names in a directory are the ends of locations in it. -/
theorem nameIn?_eq_some_iff {dir location : Location} {name : String} :
    nameIn? dir location = some name ↔ location = dir ++ [name] := by
  unfold nameIn?
  rcases List.eq_nil_or_concat location with rfl | ⟨front, last, rfl⟩
  · simp
  · rw [List.concat_eq_append, List.dropLast_concat, List.getLast?_concat]
    constructor
    · intro h
      split at h
      · next hdir => rw [hdir, Option.some.inj h]
      · cases h
    · intro h
      obtain ⟨rfl, hlast⟩ := List.append_inj' h rfl
      simpa using hlast

/-- A directory lists the entries one name further. -/
theorem mem_children {t : FileTree} {dir : Location} {name : String} {node : Node} :
    (name, node) ∈ t.children dir ↔ (dir ++ [name], node) ∈ t.entries := by
  simp only [children, List.mem_filterMap, Option.map_eq_some_iff, nameIn?_eq_some_iff]
  constructor
  · rintro ⟨⟨location, node'⟩, hentry, name', hname, heq⟩
    obtain ⟨rfl, rfl⟩ := Prod.mk.inj heq
    rw [← hname]
    exact hentry
  · intro hentry
    exact ⟨(dir ++ [name], node), hentry, name, rfl, rfl⟩

/-- In a sound tree a directory lists what lies one name further. -/
theorem Sound.mem_children_iff {t : FileTree} (h : t.Sound) {dir : Location} {name : String}
    {node : Node} : (name, node) ∈ t.children dir ↔ t.node? (dir ++ [name]) = some node := by
  rw [mem_children, h.node?_eq_some_iff (by simp)]

/-- No name is listed twice. -/
theorem Sound.nodup_children {t : FileTree} (h : t.Sound) (dir : Location) :
    ((t.children dir).map Prod.fst).Nodup := by
  have hnames : (t.children dir).map Prod.fst = (t.entries.map Prod.fst).filterMap (nameIn? dir) := by
    rw [children, List.map_filterMap, List.filterMap_map]
    congr 1
    funext entry
    simp [Function.comp_def]
  rw [hnames]
  apply h.distinct.filterMap
  intro first second name hfirst hsecond
  rw [Option.mem_def, nameIn?_eq_some_iff] at hfirst hsecond
  rw [hfirst, hsecond]

/-! ## Putting entries -/

@[simp] theorem lookup_putEntry (location : Location) (node : Node)
    (entries : List (Location × Node)) (other : Location) :
    (putEntry location node entries).lookup other =
      if other = location then some node else entries.lookup other := by
  induction entries with
  | nil => rw [putEntry, lookup_cons_if]
  | cons entry entries ih =>
    obtain ⟨key, value⟩ := entry
    unfold putEntry
    split
    · next heq =>
      subst heq
      rw [lookup_cons_if, lookup_cons_if]
      by_cases hother : other = key <;> simp [hother]
    · next hne =>
      rw [lookup_cons_if, ih, lookup_cons_if]
      by_cases hother : other = key
      · subst hother
        rw [if_pos rfl, if_neg hne, if_pos rfl]
      · rw [if_neg hother, if_neg hother]

/-- Putting an entry below the root changes what is at its location, and
    nothing else. -/
theorem node?_put {t : FileTree} {location : Location} (hroot : location ≠ []) (node : Node)
    (other : Location) :
    (t.put location node).node? other = if other = location then some node else t.node? other := by
  by_cases hother : other = []
  · subst hother
    rw [if_neg (Ne.symm hroot), node?_nil, node?_nil]
  · rw [node?_of_ne_nil _ hother, node?_of_ne_nil _ hother, put, lookup_putEntry]

@[simp] theorem node?_put_self {t : FileTree} {location : Location} (hroot : location ≠ [])
    (node : Node) : (t.put location node).node? location = some node := by
  rw [node?_put hroot, if_pos rfl]

@[simp] theorem node?_put_of_ne {t : FileTree} {location other : Location} (hroot : location ≠ [])
    (node : Node) (h : other ≠ location) : (t.put location node).node? other = t.node? other := by
  rw [node?_put hroot, if_neg h]

theorem mem_putEntry {location : Location} {node : Node} {entries : List (Location × Node)}
    {entry : Location × Node} (h : entry ∈ putEntry location node entries) :
    entry = (location, node) ∨ entry ∈ entries := by
  induction entries with
  | nil => simpa [putEntry] using h
  | cons first entries ih =>
    unfold putEntry at h
    split at h
    · rcases List.mem_cons.1 h with h | h
      · exact .inl h
      · exact .inr (List.mem_cons_of_mem _ h)
    · rcases List.mem_cons.1 h with h | h
      · exact .inr (h ▸ List.mem_cons_self)
      · exact (ih h).imp id (List.mem_cons_of_mem _)

/-- Putting an entry keeps the locations distinct. -/
theorem nodup_putEntry (location : Location) (node : Node) {entries : List (Location × Node)}
    (h : (entries.map Prod.fst).Nodup) :
    ((putEntry location node entries).map Prod.fst).Nodup := by
  induction entries with
  | nil => simp [putEntry]
  | cons entry entries ih =>
    rw [List.map_cons, List.nodup_cons] at h
    unfold putEntry
    split
    · next heq =>
      rw [List.map_cons, List.nodup_cons]
      rw [heq] at h
      exact h
    · next hne =>
      rw [List.map_cons, List.nodup_cons]
      refine ⟨fun hmem => ?_, ih h.2⟩
      obtain ⟨other, hother, heq⟩ := List.mem_map.1 hmem
      rcases mem_putEntry hother with rfl | hother
      · exact hne heq.symm
      · exact h.1 (List.mem_map.2 ⟨other, hother, heq⟩)

/-- Putting an entry into a directory, in place of nothing that holds others,
    keeps a tree sound. -/
theorem Sound.put {t : FileTree} (h : t.Sound) {dir : Location} {name : String} {node : Node}
    (hdir : t.node? dir = some .directory) (hname : IsName name)
    (hfree : t.node? (dir ++ [name]) ≠ some .directory) : (t.put (dir ++ [name]) node).Sound := by
  have hroot : dir ++ [name] ≠ [] := by simp
  -- no directory is replaced, so what lay in one still does
  have hkept {location : Location} (hlocation : t.node? location = some .directory) :
      (t.put (dir ++ [name]) node).node? location = some .directory := by
    have hne : location ≠ dir ++ [name] := fun heq => hfree (heq ▸ hlocation)
    simp [hne, hlocation]
  refine ⟨nodup_putEntry _ _ h.distinct, ?_, ?_, hkept h.working⟩
  · intro entry hentry
    rcases mem_putEntry hentry with rfl | hentry
    · refine ⟨hroot, hkept ?_⟩
      rw [List.dropLast_concat]
      exact hdir
    · exact ⟨(h.nested entry hentry).1, hkept (h.nested entry hentry).2⟩
  · intro entry hentry
    rcases mem_putEntry hentry with rfl | hentry
    · intro other hother
      rcases List.mem_append.1 hother with hother | hother
      · exact h.isName_of_mem hdir other hother
      · exact List.mem_singleton.1 hother ▸ hname
    · exact h.named entry hentry

end RenderCheck.FileTree
