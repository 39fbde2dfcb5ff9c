import RenderCheck.Proofs.FileTree.Resolution
import RenderCheck.Proofs.Walk.SortedNames

/-! # Walks side by side

    A walk looks at the files and visits items, and nothing else that it does
    depends on what a computation is. So whatever relates two ways of looking
    and two ways of visiting relates two whole walks, if it is kept by doing
    one thing after the other (`Simulation.visit`).

    What a walk visits in a directory is not any item: it is an error of the
    walk, or the pair of a path that goes from the reference root down through
    names that the files had when they were looked at (`Walk.Met`). -/

namespace RenderCheck

/-- Every name in the locations of the tree is of a certain kind. -/
def FileTree.AllNames (Name : String → Prop) (t : FileTree) : Prop :=
  ∀ entry ∈ t.entries, ∀ name ∈ entry.1, Name name

/-- What a path lists has names that the tree has. -/
theorem FileTree.AllNames.of_listDir {Name : String → Prop} {t : FileTree} (h : t.AllNames Name)
    {p : Path} {entries : List (String × Node)} (hlist : t.listDir p = .ok entries)
    {name : String} {node : Node} (hmem : (name, node) ∈ entries) : Name name := by
  obtain ⟨dir, -, rfl⟩ := FileTree.listDir_eq_ok_iff.1 hlist
  exact h _ (FileTree.mem_children.1 hmem) name (by simp)

/-! ## Computations side by side -/

/-- A relation between computations of two kinds that is kept by doing one
    after the other. -/
structure Simulation (m n : Type → Type) [Monad m] [Monad n] where
  /-- The computations belong together. -/
  Related : {α : Type} → m α → n α → Prop
  /-- Doing nothing belongs to doing nothing. -/
  pure : ∀ {α : Type} (a : α), Related (pure a) (pure a)
  /-- What goes on alike from what belongs together belongs together. -/
  bind : ∀ {α β : Type} {x : m α} {y : n α} {f : α → m β} {g : α → n β},
    Related x y → (∀ a, Related (f a) (g a)) → Related (x >>= f) (y >>= g)

namespace Walk

/-- What a walk may meet in a directory if every name it comes across is of a
    certain kind. -/
inductive Met (Name : String → Prop) (referenceRoot renderRoot : Path) : WalkItem → Prop where
  /-- The walk fails somewhere. -/
  | failure (dir : Path) (error : IoError) :
      Met Name referenceRoot renderRoot (.error (.walk dir error))
  /-- The pair of a path below the root. -/
  | pair {names : List String} : names ≠ [] → (∀ name ∈ names, Name name) →
      Met Name referenceRoot renderRoot
        (FilePair.ofReference referenceRoot renderRoot (referenceRoot.below names))

/-- A pair that a walk meets in a directory is that of some names below the
    root. -/
theorem Met.eq_below {referenceRoot renderRoot : Path} (hroot : referenceRoot.text ≠ "")
    {pair : FilePair} (h : Met IsName referenceRoot renderRoot (.ok pair)) :
    ∃ names ≠ [], (∀ name ∈ names, IsName name) ∧
      pair = FilePair.below referenceRoot renderRoot names := by
  generalize hitem : (.ok pair : WalkItem) = item at h
  cases h with
  | failure => cases hitem
  | @pair names hsome hnames =>
    rw [FilePair.ofReference_below renderRoot hroot hsome hnames] at hitem
    cases hitem
    exact ⟨names, hsome, hnames, rfl⟩

end Walk

namespace Simulation

variable {m n : Type → Type} [Monad m] [Monad n] (sim : Simulation m n)

/-- Going through a list alike. -/
theorem forM {α : Type} {f : α → m PUnit} {g : α → n PUnit} {items : List α}
    (h : ∀ item ∈ items, sim.Related (f item) (g item)) :
    sim.Related (forM items f) (forM items g) := by
  induction items with
  | nil => exact sim.pure PUnit.unit
  | cons item items ih =>
    rw [List.forM_cons, List.forM_cons]
    exact sim.bind (h item List.mem_cons_self) fun _ =>
      ih fun other hother => h other (List.mem_cons_of_mem _ hother)

section Walks

variable {Name : String → Prop} {look : m FileTree} {look' : n FileTree}
  {visitor : WalkItem → m Unit} {visitor' : WalkItem → n Unit} {referenceRoot renderRoot : Path}
  (hlook : ∀ {β : Type} {f : FileTree → m β} {g : FileTree → n β},
    (∀ files : FileTree, files.AllNames Name → sim.Related (f files) (g files)) →
      sim.Related (look >>= f) (look' >>= g))
  (hvisit : ∀ item, Walk.Met Name referenceRoot renderRoot item →
    sim.Related (visitor item) (visitor' item))

include hlook hvisit

/-- Two walks over what lies in a directory. -/
theorem visitDir (depth : Nat) (names : List String) (hnames : ∀ name ∈ names, Name name) :
    sim.Related
      (Walk.visitDir look visitor referenceRoot renderRoot depth (referenceRoot.below names))
      (Walk.visitDir look' visitor' referenceRoot renderRoot depth (referenceRoot.below names)) := by
  induction depth generalizing names with
  | zero => exact hvisit _ (.failure _ _)
  | succ depth ih =>
    unfold Walk.visitDir
    apply hlook
    intro files hfiles
    cases hlist : files.listDir (referenceRoot.below names) with
    | error error => exact hvisit _ (.failure _ _)
    | ok entries =>
      -- a name further down is of the kind too
      have hdeeper {name : String} {node : Node} (hmem : (name, node) ∈ entries) :
          ∀ other ∈ names ++ [name], Name other := by
        intro other hother
        rcases List.mem_append.1 hother with hother | hother
        · exact hnames other hother
        · rw [List.mem_singleton.1 hother]
          exact hfiles.of_listDir hlist hmem
      -- the files of the directory are looked at one by one, the directories walked
      refine sim.bind (sim.forM fun name hname => ?_) fun _ => sim.forM fun name hname => ?_
      · obtain ⟨node, hmem, -⟩ := Walk.mem_sortedNames.1 hname
        apply hlook
        intro files _
        rw [← Path.below_concat]
        split
        · exact sim.pure PUnit.unit
        · exact hvisit _ (.pair (by simp) (hdeeper hmem))
      · obtain ⟨node, hmem, -⟩ := Walk.mem_sortedNames.1 hname
        rw [← Path.below_concat]
        exact ih _ (hdeeper hmem)

/-- Two walks over the tree below the reference root, which may be all there
    is. -/
theorem visit (hroot : sim.Related (visitor (FilePair.ofReference referenceRoot renderRoot
      referenceRoot)) (visitor' (FilePair.ofReference referenceRoot renderRoot referenceRoot))) :
    sim.Related (Walk.visit look visitor referenceRoot renderRoot)
      (Walk.visit look' visitor' referenceRoot renderRoot) := by
  have hbelow := sim.visitDir hlook hvisit Walk.depthLimit [] (by simp)
  unfold Walk.visit
  apply hlook
  intro files _
  cases files.inspect false referenceRoot with
  | error error => exact hvisit _ (.failure _ _)
  | ok node =>
    cases node with
    | file content executable => exact hroot
    | directory => exact hbelow
    | link target =>
      cases files.inspect true referenceRoot with
      | error error => exact hvisit _ (.failure _ _)
      | ok node => cases node <;> first | exact hbelow | exact hroot

end Walks

/-- Two walks that are alike in how they look and in how they visit, whatever
    they see and meet. -/
theorem visit_all {look : m FileTree} {look' : n FileTree} {visitor : WalkItem → m Unit}
    {visitor' : WalkItem → n Unit}
    (hlook : ∀ {β : Type} {f : FileTree → m β} {g : FileTree → n β},
      (∀ files, sim.Related (f files) (g files)) → sim.Related (look >>= f) (look' >>= g))
    (hvisit : ∀ item, sim.Related (visitor item) (visitor' item))
    (referenceRoot renderRoot : Path) :
    sim.Related (Walk.visit look visitor referenceRoot renderRoot)
      (Walk.visit look' visitor' referenceRoot renderRoot) :=
  @visit _ _ _ _ sim (fun _ => True) _ _ _ _ _ _
    (fun hf => hlook fun files => hf files fun _ _ _ _ => trivial) (fun item _ => hvisit item)
    (hvisit _)

end Simulation

end RenderCheck
