import RenderCheck.Png.Reader

/-! # What the first bytes say

    What is read before the pixels of a file is read in the same way whatever
    follows (`Carries`). So an image that its first bytes call too large is too
    large, and a reader that asks for no more of them finds nothing else
    (`decodeContent_eq`). -/

namespace RenderCheck.Png

variable {bytes after : List UInt8} (more : List UInt8)

/-! ## Chunks -/

theorem readChunkHead?_append {length : Nat} {kind : List UInt8}
    (h : readChunkHead? bytes = some (length, kind, after)) :
    readChunkHead? (bytes ++ more) = some (length, kind, after ++ more) := by
  unfold readChunkHead? at h
  split at h
  · cases h
    rfl
  · cases h

theorem readChunkBody?_append {length : Nat} {kind : List UInt8} {chunk : Chunk} {sound : Bool}
    (h : readChunkBody? length kind bytes = some (chunk, sound, after)) :
    readChunkBody? length kind (bytes ++ more) = some (chunk, sound, after ++ more) := by
  unfold readChunkBody? at h ⊢
  dsimp only at h ⊢
  split at h
  · next hlong =>
    obtain ⟨hdata, hchecksum⟩ := hlong
    have hlength : length ≤ bytes.length := by
      rw [List.length_take] at hdata
      omega
    have htake : (bytes ++ more).take length = bytes.take length :=
      List.take_append_of_le_length hlength
    have hdrop : (bytes ++ more).drop length = bytes.drop length ++ more :=
      List.drop_append_of_le_length hlength
    rw [htake, hdrop, List.take_append_of_le_length hchecksum,
      List.drop_append_of_le_length hchecksum,
      if_pos ⟨hdata, by rw [List.length_append]; omega⟩]
    cases h
    rfl
  · cases h

/-! ## Before the pixels -/

/-- What the first reader finds the second one finds too, and has some bytes more
    left. -/
def Carries {α : Type} (more : List UInt8) (x y : Except Fault (α × List UInt8)) : Prop :=
  ∀ a after, x = .ok (a, after) → y = .ok (a, after ++ more)

section Rules

variable {α : Type} {more}

theorem carries_error {fault : Fault} {y : Except Fault (α × List UInt8)} :
    Carries more (.error fault) y := by
  intro a after h
  cases h

theorem carries_ok (a : α) (after : List UInt8) :
    Carries more (.ok (a, after)) (.ok (a, after ++ more)) := by
  intro b behind h
  cases h
  rfl

/-- Readers that look at the same condition carry over if their branches do. -/
theorem Carries.ite {condition : Prop} [Decidable condition]
    {x x' y y' : Except Fault (α × List UInt8)} (hthen : condition → Carries more x y)
    (helse : ¬ condition → Carries more x' y') :
    Carries more (if condition then x else x') (if condition then y else y') := by
  by_cases hcondition : condition
  · rw [if_pos hcondition, if_pos hcondition]
    exact hthen hcondition
  · rw [if_neg hcondition, if_neg hcondition]
    exact helse hcondition

/-- Readers that go on with the same thing carry over if what goes on does. -/
theorem Carries.bind {β : Type} {first : Except Fault β}
    {next next' : β → Except Fault (α × List UInt8)}
    (hnext : ∀ b, Carries more (next b) (next' b)) :
    Carries more (first >>= next) (first >>= next') := by
  cases first with
  | error fault => exact carries_error
  | ok b => exact hnext b

end Rules

/-- The chunks before the pixels are the same whatever follows. -/
theorem readContents_append {fuel fuel' : Nat} (hfuel : fuel ≤ fuel') (contents : Contents)
    (bytes : List UInt8) :
    Carries more (readContents fuel contents bytes)
      (readContents fuel' contents (bytes ++ more)) := by
  induction fuel generalizing fuel' contents bytes with
  | zero => exact carries_error
  | succ fuel ih =>
    obtain ⟨fuel', rfl⟩ : ∃ n, fuel' = n + 1 := ⟨fuel' - 1, by omega⟩
    have hfuel' : fuel ≤ fuel' := by omega
    unfold readContents
    cases hhead : readChunkHead? bytes with
    | none => exact carries_error
    | some head =>
      obtain ⟨length, kind, body⟩ := head
      rw [readChunkHead?_append more hhead]
      refine .ite (fun _ => carries_ok contents bytes) fun _ => ?_
      refine .ite (fun _ => carries_error) fun _ => .ite (fun _ => carries_error) fun _ => ?_
      cases hbody : readChunkBody? length kind body with
      | none => exact carries_error
      | some read =>
        obtain ⟨chunk, sound, behind⟩ := read
        rw [readChunkBody?_append more hbody]
        -- a chunk that is not sound is left out, unless it is needed
        refine .ite (fun _ => .bind fun between => ih hfuel' between behind) fun _ => ?_
        exact .ite (fun _ => carries_error) fun _ => ih hfuel' contents behind

/-- What a file says before its pixels it says with more bytes behind. -/
theorem readHead_append (bytes : List UInt8) :
    Carries more (readHead bytes) (readHead (bytes ++ more)) := by
  unfold readHead
  by_cases hshort : bytes.length < 8
  · rw [if_pos hshort]
    exact carries_error
  have hlong : ¬ (bytes ++ more).length < 8 := by
    rw [List.length_append]
    omega
  have htake : (bytes ++ more).take 8 = bytes.take 8 :=
    List.take_append_of_le_length (Nat.le_of_not_lt hshort)
  have hdrop : (bytes ++ more).drop 8 = bytes.drop 8 ++ more :=
    List.drop_append_of_le_length (Nat.le_of_not_lt hshort)
  -- from here on both readers look at the same bytes
  rw [if_neg hshort, if_neg hlong, htake, hdrop]
  refine .ite (fun _ => carries_error) fun _ => ?_
  cases hhead : readChunkHead? (bytes.drop 8) with
  | none => exact carries_error
  | some head =>
    obtain ⟨length, kind, body⟩ := head
    rw [readChunkHead?_append more hhead]
    refine .ite (fun _ => carries_error) fun _ => ?_
    cases hbody : readChunkBody? length kind body with
    | none => exact carries_error
    | some read =>
      obtain ⟨chunk, sound, behind⟩ := read
      rw [readChunkBody?_append more hbody]
      refine .ite (fun _ => carries_error) fun _ => .bind fun header => ?_
      refine readContents_append more ?_ { header := header } behind
      rw [List.length_append]
      omega

/-! ## Images that are too large -/

/-- More bytes do not make an image smaller. -/
theorem decodeWithin_append_of_saysTooLarge {limit : Nat} (h : saysTooLarge limit bytes = true) :
    decodeWithin limit (bytes ++ more) = .error .tooLarge := by
  unfold saysTooLarge at h
  split at h
  · next contents after hhead =>
    simp only [Bool.and_eq_true, Bool.not_eq_true', decide_eq_true_eq] at h
    rw [decodeWithin, readHead_append more bytes contents after hhead]
    simp only [bind, Except.bind, h.1, h.2]
    rfl
  · cases h

/-- To ask for the first bytes alone is not to read another image. -/
theorem decodeContent_eq (content : Content) : decodeContent content = decode content.bytes := by
  unfold decodeContent
  split
  · next hlarge =>
    rw [content.head_eq_take] at hlarge
    have hwhole := decodeWithin_append_of_saysTooLarge
      (content.bytes.drop Content.headLength) hlarge
    rw [List.take_append_drop] at hwhole
    exact hwhole.symm
  · rfl

end RenderCheck.Png
