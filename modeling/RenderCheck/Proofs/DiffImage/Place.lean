import RenderCheck.Proofs.DiffImage.Names
import RenderCheck.Proofs.Path.Components
import RenderCheck.Proofs.Run.Requests

/-! # Where diff images go

    A pair's relative path says nothing but names and ways up, and unless it is
    empty it ends in the name of the file. With dashes in place of the separators
    it is a single name, whatever ways up there are in it; so the one path that
    the backend is asked to draw into leads directly into the diff directory
    (`diff_image_in_directory`). -/

namespace RenderCheck.DiffImage

variable {referenceRoot renderRoot reference : Path} {pair : FilePair} {name : String}

/-- Behind the root a file is reached by its name, or the root is the file. -/
theorem relative_cases (hroot : referenceRoot.text ≠ "")
    (hpair : FilePair.ofReference referenceRoot renderRoot reference = .ok pair)
    (hname : reference.fileName? = some name) :
    pair.relative.text = "" ∨ ∃ front, pair.relative.components = front ++ [Component.name name] := by
  obtain ⟨hlast, -⟩ := Path.isName_of_fileName? hname
  obtain ⟨-, hcomponents⟩ := FilePair.relative_of_ofReference hroot hpair
  by_cases hempty : pair.relative.text = ""
  · exact .inl hempty
  · have hsome := Path.components_ne_nil hempty
    rw [hcomponents, List.getLast?_append_of_ne_nil _ hsome] at hlast
    exact .inr (List.getLast?_eq_some_iff.1 hlast)

/-- No component of the relative path has a separator in it. -/
theorem no_separator_of_relative (hroot : referenceRoot.text ≠ "")
    (hpair : FilePair.ofReference referenceRoot renderRoot reference = .ok pair)
    {text : String} (h : text ∈ pair.relative.components.map Component.text) :
    '/' ∉ text.toList := by
  obtain ⟨component, hmem, rfl⟩ := List.mem_map.1 h
  obtain ⟨hlead, -⟩ := FilePair.relative_of_ofReference hroot hpair
  rcases Path.parent_or_name_of_mem hlead hmem with rfl | ⟨other, rfl, hother⟩
  · decide
  · exact hother.no_separator

/-- The components with dashes between them, or the name of a root that is the
    file itself. -/
theorem diffFileName_of_ofReference (hroot : referenceRoot.text ≠ "")
    (hpair : FilePair.ofReference referenceRoot renderRoot reference = .ok pair)
    (hname : reference.fileName? = some name) :
    pair.diffFileName = if pair.relative.text = "" then name
      else "-".intercalate (pair.relative.components.map Component.text) := by
  have hfile : pair.fileName? = some name := by
    obtain ⟨-, rfl⟩ := FilePair.ofReference_eq_ok_iff.1 hpair
    exact hname
  split
  · next hempty =>
    have hnone : pair.relative.components = [] := by
      rw [Path.components, Path.parts, hempty]
      rfl
    unfold FilePair.diffFileName FilePair.directoryComponents
    rw [hfile, hnone]
    rfl
  · next hsome =>
    obtain ⟨front, hfront⟩ := (relative_cases hroot hpair hname).resolve_left hsome
    exact diffFileName_of_components hfile hfront

/-- They make a name. -/
theorem isName_diffFileName (hroot : referenceRoot.text ≠ "")
    (hpair : FilePair.ofReference referenceRoot renderRoot reference = .ok pair)
    (hname : reference.fileName? = some name) : IsName pair.diffFileName := by
  obtain ⟨-, hlast⟩ := Path.isName_of_fileName? hname
  rw [diffFileName_of_ofReference hroot hpair hname]
  split
  · exact hlast
  · next hsome =>
    obtain ⟨front, hfront⟩ := (relative_cases hroot hpair hname).resolve_left hsome
    rw [hfront, List.map_append, List.map_singleton]
    -- a way up in front is harmless, since what follows its dashes is a name
    refine isName_intercalate_concat hlast fun text htext => ?_
    refine no_separator_of_relative hroot hpair ?_
    rw [hfront, List.map_append]
    exact List.mem_append_left _ htext

/-- A file's diff image is named by the components of its relative path with
    dashes between them, or by the name of the file if that path is empty. This
    is a name, not empty and not of dots, without a separator. Into whatever
    directory its diff image is to be written, the backend is asked to draw into
    the path that is one name further than the directory, or not at all. -/
theorem diff_image_in_directory (hroot : referenceRoot.text ≠ "")
    (hpair : FilePair.ofReference referenceRoot renderRoot reference = .ok pair)
    (hname : reference.fileName? = some name) :
    (pair.diffFileName = if pair.relative.text = "" then name
      else "-".intercalate (pair.relative.components.map Component.text)) ∧
    pair.diffFileName ≠ "" ∧ '/' ∉ pair.diffFileName.toList ∧
    pair.diffFileName ≠ "." ∧ pair.diffFileName ≠ ".." ∧
    ∀ dir : Path, ∃ output : Path,
      output.components = dir.components ++ [.name pair.diffFileName] ∧
      ∀ {μ : Type} (c : Comparator μ) (machine : Machine μ),
        Action.Notes (c.writeDiffImage pair dir) (c.watched.writeDiffImage pair dir) machine
          (if machine.files.pathExists dir || (machine.files.makeDirs dir).1.isOk then
            [.renderDiff pair.reference pair.generated output]
          else []) := by
  have hplace := isName_diffFileName hroot hpair hname
  refine ⟨diffFileName_of_ofReference hroot hpair hname, hplace.nonempty, hplace.no_separator,
    hplace.not_current, hplace.not_parent, fun dir => ?_⟩
  refine ⟨dir.join ⟨pair.diffFileName⟩, dir.components_join hplace, fun c machine => ?_⟩
  -- the directory is there, or has just been made
  have hmade : (machine.files.pathExists dir || (machine.files.makeDirs dir).1.isOk) = true ↔
      machine.files.pathExists dir = true ∨ (machine.files.makeDirs dir).1 = .ok () := by
    rw [Bool.or_eq_true]
    cases (machine.files.makeDirs dir).1 <;> simp [Except.isOk, Except.toBool]
  split
  · next hthere => exact c.notes_writeDiffImage pair (hmade.1 hthere)
  · next hnot => exact c.notes_writeDiffImage_nothing pair (mt hmade.2 hnot)

namespace Upwards

/-- A file beside the root, reached through it, and a directory for its diff
    image: nothing leads up again out of that. -/
theorem place_of_file_beside :
    ∃ pair output, FilePair.ofReference ⟨"ref/"⟩ ⟨"out"⟩ ⟨"ref/..//shots/./a.png"⟩ = .ok pair ∧
      pair.diffFileName = "..-shots-a.png" ∧ pair.diffFileName ≠ ".." ∧
      output.components = [.name "diffs", .name "..-shots-a.png"] ∧
      ∀ (c : Comparator Unit) (machine : Machine Unit),
        machine.files.pathExists ⟨"diffs/."⟩ = true →
        Action.Notes (c.writeDiffImage pair ⟨"diffs/."⟩) (c.watched.writeDiffImage pair ⟨"diffs/."⟩)
          machine [.renderDiff pair.reference pair.generated output] := by
  have hpair : FilePair.ofReference ⟨"ref/"⟩ ⟨"out"⟩ ⟨"ref/..//shots/./a.png"⟩
      = .ok ⟨⟨"ref/..//shots/./a.png"⟩, ⟨"out/..//shots/./a.png"⟩, ⟨"..//shots/./a.png"⟩⟩ := by
    decide +kernel
  have hname : (Path.mk "ref/..//shots/./a.png").fileName? = some "a.png" := by decide +kernel
  obtain ⟨hnamed, -, -, -, hnot, hplace⟩ := diff_image_in_directory (by decide) hpair hname
  have hdashes : "-".intercalate ((Path.mk "..//shots/./a.png").components.map Component.text)
      = "..-shots-a.png" := by
    decide +kernel
  rw [if_neg (by decide), hdashes] at hnamed
  obtain ⟨output, houtput, hdrawn⟩ := hplace ⟨"diffs/."⟩
  refine ⟨_, output, hpair, hnamed, hnot, ?_, fun c machine hthere => ?_⟩
  · rw [houtput, hnamed]
    decide +kernel
  · have hnotes := hdrawn c machine
    rw [hthere, Bool.true_or, if_pos rfl] at hnotes
    exact hnotes

end Upwards

end RenderCheck.DiffImage
