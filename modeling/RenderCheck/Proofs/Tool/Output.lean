import RenderCheck.Proofs.Text.Lossy
import RenderCheck.Tool.Program

/-! # What a program said

    The text of both outputs of a program shows all that can be read of them: each
    output is read by itself, and bytes that are not UTF-8 are replaced without a
    character around them being lost. -/

namespace RenderCheck.Tool

open Text

/-- A text shows two outputs, one after the other. -/
structure Shows (output errors : List UInt8) (text : String) : Prop where
  /-- Each output is read by itself. What is replaced is no sequence of a
      character, and none begins within it. -/
  apart : ∃ out err, Reads output out ∧ Reads errors err ∧ text.toList = out ++ err
  /-- The ASCII bytes are those of the outputs. -/
  ascii : (encode text.toList).filter isAscii = output.filter isAscii ++ errors.filter isAscii
  /-- Nothing is replaced in outputs that are UTF-8. -/
  unchanged : output.toByteArray.IsValidUTF8 → errors.toByteArray.IsValidUTF8 →
    text.toByteArray = output.toByteArray ++ errors.toByteArray
  /-- The sequence of a character is kept wherever it stands in the first output. -/
  kept_output : ∀ before c after, output = before ++ encodeChar c ++ after →
    ∃ front back err, Reads before front ∧ Reads after back ∧ Reads errors err ∧
      text.toList = front ++ c :: back ++ err
  /-- So it is in the second one. -/
  kept_errors : ∀ before c after, errors = before ++ encodeChar c ++ after →
    ∃ out front back, Reads output out ∧ Reads before front ∧ Reads after back ∧
      text.toList = out ++ (front ++ c :: back)
  /-- A sequence that the first output ends in is not completed by the second. -/
  cut : ∀ before piece c, output = before ++ piece → piece ≠ [] → piece <+: encodeChar c →
    piece ≠ encodeChar c → ∃ front err, Reads before front ∧ Reads errors err ∧
      text.toList = front ++ replacement :: err

/-- Bytes that are UTF-8 are read as a text that has these bytes. -/
theorem toByteArray_decodeLossy {bytes : List UInt8} (h : bytes.toByteArray.IsValidUTF8) :
    (String.ofList (decodeLossy bytes)).toByteArray = bytes.toByteArray := by
  obtain ⟨text, htext⟩ := h
  rw [← toByteArray_encode, List.toByteArray_inj] at htext
  rw [htext, reads_iff.1 (reads_encode text), String.toByteArray_ofList, toByteArray_encode]

/-- Whatever bytes a program printed, its text shows both of its outputs. -/
theorem Finished.shows_combinedOutput (finished : Finished) :
    Shows finished.output finished.errors finished.combinedOutput := by
  have hout := reads_decodeLossy finished.output
  have herr := reads_decodeLossy finished.errors
  have htext : finished.combinedOutput.toList =
      decodeLossy finished.output ++ decodeLossy finished.errors := by
    rw [combinedOutput, String.toList_ofList]
  refine ⟨⟨_, _, hout, herr, htext⟩, ?ascii, ?unchanged, ?kept_output, ?kept_errors, ?cut⟩
  case ascii =>
    rw [htext, encode, List.flatMap_append, ← encode, ← encode, List.filter_append,
      hout.filter_isAscii, herr.filter_isAscii]
  case unchanged =>
    intro houtput herrors
    rw [combinedOutput, String.ofList_append, String.toByteArray_append,
      toByteArray_decodeLossy houtput, toByteArray_decodeLossy herrors]
  case kept_output =>
    intro before c after houtput
    -- there is only one way to read a stream, so it is the one around the character
    have hkept := (reads_decodeLossy before).kept_between c (reads_decodeLossy after)
    rw [← houtput] at hkept
    exact ⟨_, _, _, reads_decodeLossy before, reads_decodeLossy after, herr,
      by rw [htext, hout.unique hkept]⟩
  case kept_errors =>
    intro before c after herrors
    have hkept := (reads_decodeLossy before).kept_between c (reads_decodeLossy after)
    rw [← herrors] at hkept
    exact ⟨_, _, _, hout, reads_decodeLossy before, reads_decodeLossy after,
      by rw [htext, herr.unique hkept]⟩
  case cut =>
    intro before piece c houtput hne hfront hcut
    have hreplaced := (reads_decodeLossy before).replaced_end hne hfront hcut
    rw [← houtput] at hreplaced
    refine ⟨_, _, reads_decodeLossy before, herr, ?_⟩
    rw [htext, hout.unique hreplaced, List.append_assoc, List.singleton_append]

/-- A number is read although the sequence before it was cut in two. -/
example : (Finished.mk (.exited 1) [0xE2, 0x82] [0xAC, 0x28, 0x30, 0x29]).combinedOutput =
    "\uFFFD\uFFFD(0)" := by
  decide +kernel

end RenderCheck.Tool
