import RenderCheck.Proofs.Text.ByteOrder

/-! # Reading bytes that may be malformed

    Bytes are read sequence by sequence. What is no sequence of a character is
    read as far as it is the beginning of one, and at least one byte of it; that
    much is shown by the replacement character. A sequence begins with a byte that
    never continues one, so that nothing malformed reaches into it, and wherever
    one begins the bytes can be cut and both parts read by themselves.

    * **Beginnings** of sequences (`Begins`), by their lead byte (`begins_iff`).
    * **What is broken** (`Broken`) is determined by the bytes
      (`Broken.append_inj`), and no sequence begins within it
      (`Broken.hidesNothing`).
    * **Readings** (`Reads`): `decodeLossy` finds the only one (`reads_iff`).
    * **What is kept** in a reading: texts, ASCII bytes, and the sequences of
      characters wherever they stand. -/

namespace RenderCheck.Text

variable {lead b : UInt8} {piece more rest bytes : List UInt8} {c d : Char}

/-! ## Beginnings -/

/-- Bytes that some sequence begins with, or is. -/
def Begins (piece : List UInt8) : Prop :=
  ∃ c, piece <+: encodeChar c

/-- Bytes that may stand after a lead byte: they continue, and the first of
    them is in the range that the lead byte leaves. -/
def Suits (lead : UInt8) (more : List UInt8) : Prop :=
  (∀ b ∈ more, isContinuation b = true) ∧
    ∀ b ∈ more.head?, 2 < sequenceLength lead → mayFollow lead b = true

theorem isContinuation_of_mayFollow (h : mayFollow lead b = true) : isContinuation b = true :=
  (mayFollow_iff.1 h).1

/-- The bytes of a character are a lead byte and what suits it. -/
theorem IsSequence.exists_suits (h : IsSequence bytes c) :
    ∃ lead more, bytes = lead :: more ∧ Suits lead more ∧ more.length + 1 = sequenceLength lead := by
  cases h with
  | one hlead => exact ⟨_, [], rfl, by simp [Suits], by simp [hlead]⟩
  | two hlead hb => exact ⟨_, [_], rfl, by simp [Suits, hlead, hb], by simp [hlead]⟩
  | three hlead hb hc =>
    exact ⟨_, [_, _], rfl, by simp [Suits, hb, hc, isContinuation_of_mayFollow hb], by simp [hlead]⟩
  | four hlead hb hc hd =>
    exact ⟨_, [_, _, _], rfl, by simp [Suits, hb, hc, hd, isContinuation_of_mayFollow hb],
      by simp [hlead]⟩

/-- A lead byte and as many bytes as it asks for are a character. -/
theorem Suits.exists_isSequence (h : Suits lead more)
    (hlength : more.length + 1 = sequenceLength lead) : ∃ c, IsSequence (lead :: more) c := by
  obtain ⟨htail, hsecond⟩ := h
  have hlead := sequenceLength_cases lead
  rcases more with _ | ⟨b, _ | ⟨c, _ | ⟨d, _ | ⟨e, more⟩⟩⟩⟩
  all_goals simp only [List.length_cons, List.length_nil, List.mem_cons, List.not_mem_nil, or_false,
    forall_eq_or_imp, forall_eq, List.head?_cons, Option.mem_def, Option.some.injEq,
    forall_eq'] at hlength htail hsecond
  · exact ⟨_, .one hlength.symm⟩
  · exact ⟨_, .two hlength.symm htail⟩
  · exact ⟨_, .three hlength.symm (hsecond (by omega)) htail.2⟩
  · exact ⟨_, .four hlength.symm (hsecond (by omega)) htail.2.1 htail.2.2⟩
  · omega

/-- Every lead byte can be followed by some byte. -/
theorem exists_mayFollow (lead : UInt8) : ∃ b, mayFollow lead b = true := by
  by_cases he0 : lead.toNat = 0xE0
  · exact ⟨0xA0, by rw [mayFollow_iff, isContinuation_iff]; simp [he0]⟩
  by_cases hf0 : lead.toNat = 0xF0
  · exact ⟨0x90, by rw [mayFollow_iff, isContinuation_iff]; simp [hf0]⟩
  · exact ⟨0x80, by rw [mayFollow_iff, isContinuation_iff]; simp [he0, hf0]⟩

/-- Bytes that suit are completed with any bytes that continue, once there is
    one of them. -/
theorem Suits.append_replicate (h : Suits lead more) (hmore : more ≠ []) (n : Nat) :
    Suits lead (more ++ List.replicate n 0x80) := by
  obtain ⟨htail, hsecond⟩ := h
  refine ⟨?_, ?_⟩
  · intro b hb
    rcases List.mem_append.1 hb with hb | hb
    · exact htail b hb
    · rw [List.eq_of_mem_replicate hb]
      rfl
  · obtain ⟨b, more, rfl⟩ := List.exists_cons_of_ne_nil hmore
    exact hsecond

/-- What suits and is too short can be completed: with a second byte that may
    follow, and then with any bytes that continue. -/
theorem Suits.exists_complete (h : Suits lead more) (hlength : more.length < sequenceLength lead) :
    ∃ all, Suits lead all ∧ more <+: all ∧ all.length + 1 = sequenceLength lead := by
  by_cases hone : sequenceLength lead = 1
  · exact ⟨more, h, List.prefix_rfl, by omega⟩
  rcases more with _ | ⟨b, more⟩
  · obtain ⟨b, hb⟩ := exists_mayFollow lead
    have hsecond : Suits lead [b] := by simp [Suits, hb, isContinuation_of_mayFollow hb]
    refine ⟨_, hsecond.append_replicate (by simp) (sequenceLength lead - 2), List.nil_prefix, ?_⟩
    simp only [List.length_append, List.length_replicate, List.length_cons, List.length_nil]
      at hlength ⊢
    omega
  · refine ⟨_, h.append_replicate (by simp) (sequenceLength lead - (more.length + 2)),
      List.prefix_append _ _, ?_⟩
    simp only [List.length_append, List.length_replicate, List.length_cons] at hlength ⊢
    omega

/-- What begins a sequence is seen without the rest of it. -/
theorem begins_iff : Begins (lead :: more) ↔ Suits lead more ∧ more.length < sequenceLength lead := by
  constructor
  · rintro ⟨c, rest, hrest⟩
    obtain ⟨lead', all, heq, ⟨htail, hsecond⟩, hlength⟩ := (isSequence_encodeChar c).exists_suits
    rw [heq, List.cons_append, List.cons.injEq] at hrest
    obtain ⟨rfl, rfl⟩ := hrest
    refine ⟨⟨fun b hb => htail b (List.mem_append_left rest hb), fun b hb => hsecond b ?_⟩, ?_⟩
    · rw [List.head?_append, hb]
      rfl
    · rw [List.length_append] at hlength
      omega
  · rintro ⟨hsuits, hlength⟩
    obtain ⟨all, hall, hmore, hcomplete⟩ := hsuits.exists_complete hlength
    obtain ⟨c, hc⟩ := hall.exists_isSequence hcomplete
    refine ⟨c, ?_⟩
    rw [← hc.eq_encodeChar]
    exact (List.prefix_cons_inj lead).2 hmore

/-- What is not complete is no character. -/
theorem ne_encodeChar_of_length (h : more.length + 1 ≠ sequenceLength lead) :
    lead :: more ≠ encodeChar c := by
  intro heq
  obtain ⟨lead', more', hcons, -, hlength⟩ := (isSequence_encodeChar c).exists_suits
  rw [← heq, List.cons.injEq] at hcons
  obtain ⟨rfl, rfl⟩ := hcons
  exact h hlength

/-- Where one sequence ends is told by its bytes. -/
theorem encodeChar_append_inj {after after' : List UInt8}
    (h : encodeChar c ++ after = encodeChar d ++ after') : c = d ∧ after = after' := by
  have hsame : c = d := by
    rcases Nat.lt_trichotomy c.toNat d.toNat with hlt | heq | hgt
    · exact absurd (encodeChar_append_lt hlt after after') (h ▸ List.lt_irrefl _)
    · exact Char.toNat_inj.1 heq
    · exact absurd (encodeChar_append_lt hgt after' after) (h ▸ List.lt_irrefl _)
  subst hsame
  exact ⟨rfl, List.append_cancel_left h⟩

/-- A sequence within another is the whole of it, if it is at its front. -/
theorem encodeChar_front_inj (h : encodeChar c <+: encodeChar d) : c = d := by
  obtain ⟨after, hafter⟩ := h
  rw [← List.append_nil (encodeChar d)] at hafter
  exact (encodeChar_append_inj hafter).1

/-- A sequence does not begin with a byte that continues one. -/
theorem isContinuation_of_begins (h : Begins (lead :: more)) : isContinuation lead = false := by
  obtain ⟨-, hlength⟩ := begins_iff.1 h
  have hlead := sequenceLength_cases lead
  rw [← Bool.not_eq_true, isContinuation_iff]
  omega

theorem begins_encodeChar : Begins (encodeChar c) :=
  ⟨c, List.prefix_rfl⟩

theorem Begins.of_longer {longer : List UInt8} (h : Begins longer) (hpiece : piece <+: longer) :
    Begins piece := by
  obtain ⟨c, hc⟩ := h
  exact ⟨c, hpiece.trans hc⟩

/-- What begins a sequence begins with the first byte of one. -/
theorem Begins.singleton (h : Begins (lead :: more)) : Begins [lead] :=
  h.of_longer ((List.prefix_cons_inj lead).2 List.nil_prefix)

/-! ## What is broken -/

/-- Bytes that are replaced, with the bytes after them: a byte that begins no
    sequence, or as much as there is of a sequence that is not completed. -/
inductive Broken : List UInt8 → List UInt8 → Prop where
  | stray {b : UInt8} {rest : List UInt8} : ¬ Begins [b] → Broken [b] rest
  | cut {piece rest : List UInt8} : piece ≠ [] → Begins piece → (∀ c, piece ≠ encodeChar c) →
      (∀ next ∈ rest.head?, ¬ Begins (piece ++ [next])) → Broken piece rest

/-- No sequence of a character begins within the first bytes. -/
def HidesNothing (piece rest : List UInt8) : Prop :=
  ∀ inner c, inner <:+ piece → inner ≠ [] → ¬ encodeChar c <+: inner ++ rest

theorem Broken.ne_nil (h : Broken piece rest) : piece ≠ [] := by
  cases h with
  | stray _ => exact List.cons_ne_nil _ _
  | cut hpiece => exact hpiece

/-- As much is taken as a sequence begins with. -/
theorem Broken.longest (h : Broken piece rest) (hmore : Begins more)
    (hfront : more <+: piece ++ rest) : more <+: piece := by
  cases h with
  | stray hstray =>
    -- a byte that is no first byte
    rcases more with _ | ⟨first, more⟩
    · exact List.nil_prefix
    · rw [List.singleton_append, List.cons_prefix_cons] at hfront
      exact absurd (hfront.1 ▸ hmore.singleton) hstray
  | cut hpiece hbegins hincomplete hnext =>
    rcases List.prefix_or_prefix_of_prefix hfront (List.prefix_append piece rest) with h | h
    · exact h
    obtain ⟨_ | ⟨next, extra⟩, rfl⟩ := h
    · simp
    -- else one more byte would begin a sequence
    rw [List.prefix_append_right_inj] at hfront
    obtain ⟨after, rfl⟩ := hfront
    refine absurd (hmore.of_longer ?_) (hnext next rfl)
    rw [List.prefix_append_right_inj]
    exact (List.prefix_cons_inj next).2 List.nil_prefix

/-- No sequence stands at the front. -/
theorem Broken.not_front (h : Broken piece rest) : ¬ encodeChar c <+: piece ++ rest := by
  intro hfront
  have hpiece := h.longest begins_encodeChar hfront
  cases h with
  | stray hstray =>
    obtain ⟨lead, more, hc, -⟩ := (isSequence_encodeChar c).exists_suits
    rw [hc, List.cons_prefix_cons] at hpiece
    have hbegins : Begins (lead :: more) := hc ▸ begins_encodeChar
    exact hstray (hpiece.1 ▸ hbegins.singleton)
  | cut hne hbegins hincomplete hnext =>
    obtain ⟨d, hd⟩ := hbegins
    obtain rfl := encodeChar_front_inj (hpiece.trans hd)
    exact hincomplete c (hd.eq_of_length_le hpiece.length_le)

theorem Broken.length_le {piece' rest' : List UInt8} (h : Broken piece rest)
    (h' : Broken piece' rest') (heq : piece ++ rest = piece' ++ rest') :
    piece.length ≤ piece'.length := by
  cases h with
  | stray _ => exact List.length_pos_iff.2 h'.ne_nil
  | cut _ hbegins _ _ => exact (h'.longest hbegins (heq ▸ List.prefix_append _ _)).length_le

/-- What is broken ends in one place only. -/
theorem Broken.append_inj {piece' rest' : List UInt8} (h : Broken piece rest)
    (h' : Broken piece' rest') (heq : piece ++ rest = piece' ++ rest') : rest = rest' :=
  (List.append_inj heq (Nat.le_antisymm (h.length_le h' heq) (h'.length_le h heq.symm))).2

theorem Begins.isContinuation_of_mem (h : Begins (lead :: more)) (hb : b ∈ more) :
    isContinuation b = true :=
  (begins_iff.1 h).1.1 b hb

/-- No sequence begins among bytes that are replaced. -/
theorem Broken.hidesNothing (h : Broken piece rest) : HidesNothing piece rest := by
  intro inner c hinner hne hfront
  obtain ⟨_ | ⟨lead, front⟩, rfl⟩ := hinner
  · exact h.not_front hfront
  -- further in, there are only bytes that continue
  rcases inner with _ | ⟨b, inner⟩
  · exact hne rfl
  have hb : isContinuation b = true := by
    generalize hpiece : lead :: front ++ b :: inner = piece at h
    cases h with
    | stray _ => simp at hpiece
    | cut _ hbegins _ _ =>
      subst hpiece
      exact hbegins.isContinuation_of_mem (List.mem_append_right front List.mem_cons_self)
  obtain ⟨first, more, hc, -⟩ := (isSequence_encodeChar c).exists_suits
  rw [hc, List.cons_append, List.cons_prefix_cons] at hfront
  have hbegins : Begins (first :: more) := hc ▸ begins_encodeChar
  rw [← hfront.1, isContinuation_of_begins hbegins] at hb
  exact Bool.false_ne_true hb

/-- Bytes that do not continue anything may follow. -/
theorem Broken.append {after : List UInt8} (h : Broken piece rest)
    (hafter : ∀ b ∈ after.head?, isContinuation b = false) : Broken piece (rest ++ after) := by
  cases h with
  | stray hstray => exact .stray hstray
  | cut hne hbegins hincomplete hnext =>
    refine .cut hne hbegins hincomplete fun next hhead hlonger => ?_
    rcases rest with _ | ⟨b, rest⟩
    · obtain ⟨lead, more, rfl⟩ := List.exists_cons_of_ne_nil hne
      have hcontinues := hlonger.isContinuation_of_mem (List.mem_append_right more
        (List.mem_singleton_self next))
      rw [hafter next hhead] at hcontinues
      exact Bool.false_ne_true hcontinues
    · exact hnext next hhead hlonger

/-! ## Readings -/

/-- A text that bytes are read as: the sequences of characters are kept, and
    what is broken between them is replaced. -/
inductive Reads : List UInt8 → List Char → Prop where
  | nil : Reads [] []
  | kept {rest : List UInt8} {text : List Char} (c : Char) :
      Reads rest text → Reads (encodeChar c ++ rest) (c :: text)
  | replaced {piece rest : List UInt8} {text : List Char} :
      Broken piece rest → HidesNothing piece rest → Reads rest text →
      Reads (piece ++ rest) (replacement :: text)

/-- What one step of the reader finds. -/
inductive Taken : List UInt8 → Option Char × List UInt8 → Prop where
  | kept {rest : List UInt8} (c : Char) : Taken (encodeChar c ++ rest) (some c, rest)
  | replaced {piece rest : List UInt8} : Broken piece rest → Taken (piece ++ rest) (none, rest)

theorem IsSequence.taken (h : IsSequence bytes c) : Taken (bytes ++ rest) (some c, rest) := by
  rw [h.eq_encodeChar]
  exact .kept c

/-- A sequence that was begun is given up before the first byte that does not
    suit. -/
theorem Suits.taken (h : Suits lead more) (hlength : more.length + 1 < sequenceLength lead)
    (hnext : ∀ b ∈ rest.head?, ¬ Suits lead (more ++ [b])) :
    Taken (lead :: more ++ rest) (none, rest) := by
  refine .replaced (.cut (List.cons_ne_nil lead more) (begins_iff.2 ⟨h, by omega⟩)
    (fun c => ne_encodeChar_of_length (by omega)) fun b hb hbegins => ?_)
  exact hnext b hb (begins_iff.1 hbegins).1

section Steps

variable {second third : UInt8}

/-- Given up after the lead byte. -/
theorem taken_lead (hlead : 1 < sequenceLength lead)
    (hnext : ∀ b ∈ rest.head?, ¬ Suits lead [b]) : Taken (lead :: rest) (none, rest) :=
  @Suits.taken lead [] rest (by simp [Suits]) hlead hnext

theorem taken_lead_of_not_mayFollow (hlead : 2 < sequenceLength lead)
    (h : ¬ mayFollow lead second = true) :
    Taken (lead :: second :: rest) (none, second :: rest) :=
  taken_lead (by omega) (by simp [Suits, hlead, h])

/-- Given up after the second byte. -/
theorem taken_second (hlead : 2 < sequenceLength lead) (hsecond : mayFollow lead second = true)
    (hnext : ∀ b ∈ rest.head?, ¬ isContinuation b = true) :
    Taken (lead :: second :: rest) (none, rest) :=
  @Suits.taken lead [second] rest (by simp [Suits, hsecond, isContinuation_of_mayFollow hsecond])
    hlead fun b hb hsuits => hnext b hb (hsuits.1 b (by simp))

/-- Given up after the third byte. -/
theorem taken_third (hlead : 3 < sequenceLength lead) (hsecond : mayFollow lead second = true)
    (hthird : isContinuation third = true) (hnext : ∀ b ∈ rest.head?, ¬ isContinuation b = true) :
    Taken (lead :: second :: third :: rest) (none, rest) :=
  @Suits.taken lead [second, third] rest
    (by simp [Suits, hsecond, hthird, isContinuation_of_mayFollow hsecond]) hlead
    fun b hb hsuits => hnext b hb (hsuits.1 b (by simp))

theorem taken_decodeOne_two (hlead : sequenceLength lead = 2) :
    Taken (lead :: rest) (decodeOne lead rest) := by
  unfold decodeOne
  simp only [hlead]
  cases rest with
  | nil => exact taken_lead (by omega) (by simp)
  | cons second rest =>
    dsimp only
    split
    · next hsecond => exact (IsSequence.two hlead hsecond).taken
    · next hsecond => exact taken_lead (by omega) (by simp [Suits, hsecond])

theorem taken_decodeOne_three (hlead : sequenceLength lead = 3) :
    Taken (lead :: rest) (decodeOne lead rest) := by
  unfold decodeOne
  simp only [hlead]
  cases rest with
  | nil => exact taken_lead (by omega) (by simp)
  | cons second rest =>
    dsimp only
    split
    · next hsecond =>
      cases rest with
      | nil => exact taken_second (by omega) hsecond (by simp)
      | cons third rest =>
        dsimp only
        split
        · next hthird => exact (IsSequence.three hlead hsecond hthird).taken
        · next hthird => exact taken_second (by omega) hsecond (by simpa using hthird)
    · next hsecond => exact taken_lead_of_not_mayFollow (by omega) hsecond

theorem taken_decodeOne_four (hlead : sequenceLength lead = 4) :
    Taken (lead :: rest) (decodeOne lead rest) := by
  unfold decodeOne
  simp only [hlead]
  cases rest with
  | nil => exact taken_lead (by omega) (by simp)
  | cons second rest =>
    dsimp only
    split
    · next hsecond =>
      cases rest with
      | nil => exact taken_second (by omega) hsecond (by simp)
      | cons third rest =>
        dsimp only
        split
        · next hthird =>
          cases rest with
          | nil => exact taken_third (by omega) hsecond hthird (by simp)
          | cons fourth rest =>
            dsimp only
            split
            · next hfourth => exact (IsSequence.four hlead hsecond hthird hfourth).taken
            · next hfourth => exact taken_third (by omega) hsecond hthird (by simpa using hfourth)
        · next hthird => exact taken_second (by omega) hsecond (by simpa using hthird)
    · next hsecond => exact taken_lead_of_not_mayFollow (by omega) hsecond

end Steps

/-- Whatever the bytes are, a step takes what stands at their front. -/
theorem taken_decodeOne (lead : UInt8) (rest : List UInt8) :
    Taken (lead :: rest) (decodeOne lead rest) := by
  rcases sequenceLength_cases lead with hone | hnone | htwo | hthree | hfour
  · rw [decodeOne.eq_def, hone.1]
    exact (IsSequence.one hone.1).taken
  · rw [decodeOne.eq_def, hnone.1]
    refine .replaced (.stray fun hbegins => ?_)
    have hlength := (begins_iff.1 hbegins).2
    omega
  · exact taken_decodeOne_two htwo.1
  · exact taken_decodeOne_three hthree.1
  · exact taken_decodeOne_four hfour.1

/-- There is one step from the front of some bytes. -/
theorem Taken.unique {taken taken' : Option Char × List UInt8} (h : Taken bytes taken)
    (h' : Taken bytes taken') : taken = taken' := by
  generalize hbytes : bytes = bytes' at h'
  cases h with
  | kept c =>
    cases h' with
    | kept d =>
      obtain ⟨rfl, rfl⟩ := encodeChar_append_inj hbytes
      rfl
    | replaced hbroken => exact absurd ⟨_, hbytes⟩ hbroken.not_front
  | replaced hbroken =>
    cases h' with
    | kept d => exact absurd ⟨_, hbytes.symm⟩ hbroken.not_front
    | replaced hbroken' => rw [hbroken.append_inj hbroken' hbytes]

theorem taken_nil {taken : Option Char × List UInt8} : ¬ Taken [] taken := by
  intro h
  generalize hbytes : [] = bytes at h
  cases h with
  | kept c => exact encodeChar_ne_nil c (List.append_eq_nil_iff.1 hbytes.symm).1
  | replaced hbroken => exact hbroken.ne_nil (List.append_eq_nil_iff.1 hbytes.symm).1

/-- The reader takes one thing after the other. -/
theorem decodeLossy_of_taken {taken : Option Char × List UInt8} (h : Taken bytes taken) :
    decodeLossy bytes = taken.1.getD replacement :: decodeLossy taken.2 := by
  rcases bytes with _ | ⟨lead, after⟩
  · exact absurd h taken_nil
  rw [decodeLossy, decodeSequences, List.map_cons, ← decodeLossy,
    ← h.unique (taken_decodeOne lead after)]

/-- The reader's text is a reading. -/
theorem reads_decodeLossy (bytes : List UInt8) : Reads bytes (decodeLossy bytes) := by
  induction bytes using decodeSequences.induct with
  | case1 =>
    rw [decodeLossy, decodeSequences]
    exact .nil
  | case2 lead rest ih =>
    have htaken := taken_decodeOne lead rest
    rw [decodeLossy_of_taken htaken]
    generalize lead :: rest = bytes, decodeOne lead rest = taken at htaken ih
    cases htaken with
    | kept c => exact ih.kept c
    | replaced hbroken => exact ih.replaced hbroken hbroken.hidesNothing

/-- There is one reading, and the reader finds it. -/
theorem reads_iff {text : List Char} : Reads bytes text ↔ decodeLossy bytes = text := by
  constructor
  · intro h
    induction h with
    | nil => rw [decodeLossy, decodeSequences, List.map_nil]
    | @kept rest text c _ ih => rw [decodeLossy_of_taken (.kept c), ih, Option.getD_some]
    | replaced hbroken _ _ ih => rw [decodeLossy_of_taken (.replaced hbroken), ih, Option.getD_none]
  · rintro rfl
    exact reads_decodeLossy bytes

/-! ## What is kept -/

theorem Reads.unique {text text' : List Char} (h : Reads bytes text) (h' : Reads bytes text') :
    text = text' := by
  rw [← reads_iff.1 h, reads_iff.1 h']

/-- Bytes are cut in two where nothing continues. -/
theorem Reads.append {after : List UInt8} {text text' : List Char} (h : Reads bytes text)
    (h' : Reads after text') (hafter : ∀ b ∈ after.head?, isContinuation b = false) :
    Reads (bytes ++ after) (text ++ text') := by
  induction h with
  | nil => exact h'
  | kept c _ ih =>
    rw [List.append_assoc]
    exact ih.kept c
  | replaced hbroken _ _ ih =>
    rw [List.append_assoc]
    have hbroken := hbroken.append hafter
    exact ih.replaced hbroken hbroken.hidesNothing

/-- Nothing is continued where a sequence begins. -/
theorem Begins.isContinuation_of_head (h : Begins piece) (hne : piece ≠ []) :
    ∀ b ∈ (piece ++ rest).head?, isContinuation b = false := by
  obtain ⟨lead, more, rfl⟩ := List.exists_cons_of_ne_nil hne
  intro b hb
  rw [List.cons_append, List.head?_cons, Option.mem_some] at hb
  rw [← hb]
  exact isContinuation_of_begins h

/-- The bytes of a text are read as the text. -/
theorem reads_encode (text : List Char) : Reads (encode text) text := by
  induction text with
  | nil => exact .nil
  | cons c text ih => exact ih.kept c

/-- The sequence of a character is kept wherever it stands, and reading starts
    anew on either side of it. -/
theorem Reads.kept_between {before after : List UInt8} {text text' : List Char}
    (h : Reads before text) (c : Char) (h' : Reads after text') :
    Reads (before ++ encodeChar c ++ after) (text ++ c :: text') := by
  rw [List.append_assoc]
  exact h.append (h'.kept c) (begins_encodeChar.isContinuation_of_head (encodeChar_ne_nil c))

/-- A sequence that ends too soon is replaced. -/
theorem Reads.replaced_end {before : List UInt8} {text : List Char} (h : Reads before text)
    (hne : piece ≠ []) (hfront : piece <+: encodeChar c) (hcut : piece ≠ encodeChar c) :
    Reads (before ++ piece) (text ++ [replacement]) := by
  have hbegins : Begins piece := ⟨c, hfront⟩
  have hincomplete (d : Char) : piece ≠ encodeChar d := by
    rintro rfl
    exact hcut (congrArg encodeChar (encodeChar_front_inj hfront))
  have hbroken : Broken piece [] := .cut hne hbegins hincomplete (by simp)
  have hpiece := Reads.nil.replaced hbroken hbroken.hidesNothing
  rw [List.append_nil] at hpiece
  refine h.append hpiece ?_
  have hhead := @Begins.isContinuation_of_head piece [] hbegins hne
  rwa [List.append_nil] at hhead

/-- A byte that is a character by itself. -/
def isAscii (b : UInt8) : Bool :=
  b < 0x80

theorem encodeChar_of_isAscii (h : isAscii b = true) : encodeChar (Char.ofNat b.toNat) = [b] := by
  have hlength : sequenceLength b = 1 := by
    rw [isAscii, decide_eq_true_eq] at h
    rw [sequenceLength, if_pos h]
  exact (IsSequence.one hlength).eq_encodeChar.symm

/-- The ASCII bytes are those of the text. -/
theorem Reads.filter_isAscii {text : List Char} (h : Reads bytes text) :
    (encode text).filter isAscii = bytes.filter isAscii := by
  induction h with
  | nil => rfl
  | kept c _ ih => rw [encode, List.flatMap_cons, ← encode, List.filter_append, List.filter_append, ih]
  | @replaced piece rest text _ hnothing _ ih =>
    have hpiece : piece.filter isAscii = [] := by
      rw [List.filter_eq_nil_iff]
      intro b hb hascii
      obtain ⟨front, back, rfl⟩ := List.append_of_mem hb
      refine hnothing (b :: back) (Char.ofNat b.toNat) (List.suffix_append _ _)
        (List.cons_ne_nil b back) ?_
      rw [encodeChar_of_isAscii hascii]
      exact (List.prefix_cons_inj b).2 List.nil_prefix
    have hreplacement : (encodeChar replacement).filter isAscii = [] := by decide
    rw [encode, List.flatMap_cons, ← encode, List.filter_append, List.filter_append, ih,
      hpiece, hreplacement]

end RenderCheck.Text
