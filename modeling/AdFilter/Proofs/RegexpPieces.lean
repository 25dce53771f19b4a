import AdFilter.Proofs.RegexpMeaning

namespace AdFilter

/-!
# Pieces that expressions lead over

The positions that an expression leads from and to enclose a piece of the text.  For sets of characters, for runs of
them and for sequences this piece is described here, so that later proofs speak of texts and no longer of positions.
-/

/-- The characters of a text between two positions of it are those of a piece. -/
structure Covers (text : Text) (start last : Nat) (piece : Text) : Prop where
  inside : last ≤ text.length
  size : last = start + piece.length
  shape : text.drop start = piece ++ text.drop last

namespace Covers

variable {text : Text} {start middle last : Nat}

theorem nil
    (inside : start ≤ text.length) :
    Covers text start start [] :=
  ⟨inside, rfl, rfl⟩

theorem append
    {first second : Text}
    (before : Covers text start middle first)
    (after : Covers text middle last second) :
    Covers text start last (first ++ second) := by
  refine ⟨after.inside, ?_, ?_⟩
  · rw [after.size, before.size, List.length_append, Nat.add_assoc]
  · rw [before.shape, after.shape, List.append_assoc]

theorem start_le
    {piece : Text}
    (covers : Covers text start last piece) :
    start ≤ text.length :=
  (covers.size ▸ Nat.le_add_right _ _).trans covers.inside

/-- From a position on, the text has a piece where its rest begins with that. -/
theorem of_drop
    {piece rest : Text}
    (inside : start ≤ text.length)
    (shape : text.drop start = piece ++ rest) :
    ∃ last,
      Covers text start last piece ∧ text.drop last = rest := by
  have afterPiece : text.drop (start + piece.length) = rest := by
    rw [← List.drop_drop, shape, List.drop_left]
  have size := congrArg List.length shape
  rw [List.length_drop, List.length_append] at size
  refine ⟨start + piece.length, ⟨by omega, rfl, ?_⟩, afterPiece⟩
  rw [afterPiece, shape]

/-- A piece of two parts has a position between them. -/
theorem split
    {first second : Text}
    (covers : Covers text start last (first ++ second)) :
    ∃ middle,
      Covers text start middle first ∧
        Covers text middle last second := by
  have shape : text.drop start = first ++ (second ++ text.drop last) := by
    rw [covers.shape, List.append_assoc]
  obtain ⟨middle, coversFirst, atSecond⟩ := of_drop covers.start_le shape
  have size : last = middle + second.length := by
    rw [covers.size, coversFirst.size, List.length_append, Nat.add_assoc]
  exact ⟨middle, coversFirst, covers.inside, size, atSecond⟩

theorem of_append
    (piece rest : Text) :
    Covers (piece ++ rest) 0 piece.length piece :=
  ⟨by simp, by simp, by simp⟩

theorem take
    (inside : last ≤ text.length) :
    Covers text 0 last (text.take last) :=
  ⟨inside, by simp [inside], by simp⟩

theorem eq_append
    {piece : Text}
    (covers : Covers text 0 last piece) :
    text = piece ++ text.drop last := by
  simpa using covers.shape

/-- The pieces of a text are what its rests begin with. -/
theorem append_suffix_iff
    {piece rest : Text} :
    (piece ++ rest) <:+ text ↔
      ∃ start last,
        Covers text start last piece ∧ text.drop last = rest := by
  constructor
  · rintro ⟨before, rfl⟩
    exact ⟨before.length, of_drop (by simp) List.drop_left⟩
  · rintro ⟨start, last, covers, rfl⟩
    rw [← covers.shape]
    exact List.drop_suffix start text

/-- A piece is what the longer rest has in front of the shorter one. -/
theorem piece_eq
    {piece other : Text}
    (covers : Covers text start last piece)
    (shape : text.drop start = other ++ text.drop last) :
    piece = other :=
  List.append_cancel_right (covers.shape.symm.trans shape)

end Covers

namespace Regexp

variable {rule : CaseRule} {text : Text} {start last : Nat}

theorem leads_one_iff
    {set : CharSet} :
    Leads rule text.toArray (.one set) start last ↔
      ∃ c, set.holds rule c = true ∧ Covers text start last [c] := by
  rw [Leads.one_iff, Positions.over?_eq_some_iff]
  constructor
  · intro leads
    rcases leads with ⟨c, found, holds, rfl⟩
    rw [List.getElem?_toArray, List.getElem?_eq_some_iff] at found
    obtain ⟨inside, rfl⟩ := found
    exact
      ⟨_, holds, inside, rfl, List.drop_eq_getElem_cons inside⟩
  · intro covered
    obtain ⟨c, holds, covers⟩ := covered
    refine ⟨c, ?_, holds, covers.size⟩
    rw [List.getElem?_toArray, ← List.head?_drop, covers.shape]
    rfl

theorem leads_single_iff
    {c : Char} :
    Leads .exact text.toArray (.one (.single c)) start last ↔
      Covers text start last [c] := by
  simp only [leads_one_iff, CharSet.holds, beq_iff_eq, exists_eq_left]

/-- Repeated characters of a set are a run of them. -/
theorem leads_star_iff
    {set : CharSet}
    (inside : start ≤ text.length) :
    Leads rule text.toArray (.star (.one set)) start last ↔
      ∃ run : Text,
        (∀ c ∈ run, set.holds rule c = true) ∧
          Covers text start last run := by
  rw [Leads.star_iff]
  constructor
  · intro steps
    induction steps with
    | refl =>
        exact ⟨[], by simp, .nil inside⟩
    | tail _ more inductionHypothesis =>
        obtain ⟨run, holdsRun, coversRun⟩ := inductionHypothesis
        obtain ⟨c, holds, covers⟩ := leads_one_iff.mp more
        refine ⟨run ++ [c], ?_, coversRun.append covers⟩
        intro other member
        rcases List.mem_append.mp member with inRun | isLast
        · exact holdsRun other inRun
        · rwa [List.mem_singleton.mp isLast]
  · intro leads
    obtain ⟨run, holdsRun, covers⟩ := leads
    induction run generalizing start with
    | nil =>
        have same : last = start := by
          simpa using covers.size
        rw [same]
    | cons c rest inductionHypothesis =>
        have coversBoth : Covers text start last ([c] ++ rest) :=
          covers
        obtain ⟨middle, coversFirst, coversRest⟩ := coversBoth.split
        have once :
            Leads rule text.toArray (.one set) start middle :=
          leads_one_iff.mpr ⟨c, holdsRun c (by simp), coversFirst⟩
        refine .head once (inductionHypothesis coversFirst.inside ?_ coversRest)
        intro other member
        exact holdsRun other (by simp [member])

theorem leads_sequence_cons_iff
    {array : Array Char}
    {first : Regexp}
    {others : List Regexp} :
    Leads rule array (sequence (first :: others)) start last ↔
      ∃ middle,
        Leads rule array first start middle ∧
          Leads rule array (sequence others) middle last := by
  cases others with
  | nil =>
      simp [sequence]
  | cons second rest =>
      exact Leads.seq_iff

/-- A number of characters of a set is a run of that length. -/
theorem leads_times_iff
    {set : CharSet}
    {count : Nat}
    (inside : start ≤ text.length) :
    Leads rule text.toArray ((Regexp.one set).times count) start last ↔
      ∃ run : Text,
        run.length = count ∧
          (∀ c ∈ run, set.holds rule c = true) ∧
          Covers text start last run := by
  induction count generalizing start with
  | zero =>
      simp only [times, List.replicate_zero, sequence, Leads.empty_iff,
        List.length_eq_zero_iff, exists_eq_left]
      constructor
      · rintro rfl
        exact ⟨by simp, .nil inside⟩
      · intro covered
        simpa using covered.2.size
  | succ count inductionHypothesis =>
      rw [times, List.replicate_succ, leads_sequence_cons_iff]
      constructor
      · intro leads
        obtain ⟨middle, once, more⟩ := leads
        obtain ⟨c, holds, covers⟩ := leads_one_iff.mp once
        obtain ⟨run, length, holdsRun, coversRun⟩ :=
          (inductionHypothesis covers.inside).mp more
        refine ⟨c :: run, by simp [length], ?_, covers.append coversRun⟩
        simpa [holds] using holdsRun
      · intro covered
        obtain ⟨run, length, holdsRun, covers⟩ := covered
        obtain ⟨c, rest, rfl⟩ := List.exists_cons_of_length_eq_add_one length
        have coversBoth : Covers text start last ([c] ++ rest) :=
          covers
        obtain ⟨middle, coversFirst, coversRest⟩ := coversBoth.split
        rw [List.forall_mem_cons] at holdsRun
        refine ⟨middle, leads_one_iff.mpr ⟨c, holdsRun.1, coversFirst⟩, ?_⟩
        exact
          (inductionHypothesis coversFirst.inside).mpr
            ⟨rest, by simpa using length, holdsRun.2, coversRest⟩

/-- At least a number of characters of a set is a run of that length or more. -/
theorem leads_repeated_iff
    {set : CharSet}
    {least : Nat}
    (inside : start ≤ text.length) :
    Leads rule text.toArray ((Regexp.one set).repeated least none) start last ↔
      ∃ run : Text,
        least ≤ run.length ∧
          (∀ c ∈ run, set.holds rule c = true) ∧
          Covers text start last run := by
  rw [repeated, Leads.seq_iff]
  constructor
  · intro leads
    obtain ⟨middle, fewest, more⟩ := leads
    obtain ⟨first, length, holdsFirst, coversFirst⟩ :=
      (leads_times_iff inside).mp fewest
    obtain ⟨rest, holdsRest, coversRest⟩ :=
      (leads_star_iff coversFirst.inside).mp more
    refine
      ⟨first ++ rest, by simp [length], ?_, coversFirst.append coversRest⟩
    rw [List.forall_mem_append]
    exact ⟨holdsFirst, holdsRest⟩
  · intro covered
    obtain ⟨run, length, holdsRun, covers⟩ := covered
    rw [← List.take_append_drop least run] at covers holdsRun
    rw [List.forall_mem_append] at holdsRun
    obtain ⟨middle, coversFirst, coversRest⟩ := covers.split
    refine ⟨middle, ?_, ?_⟩
    · exact
        (leads_times_iff inside).mpr
          ⟨_, List.length_take_of_le length, holdsRun.1, coversFirst⟩
    · exact
        (leads_star_iff coversFirst.inside).mpr
          ⟨_, holdsRun.2, coversRest⟩

/-- Any number of characters of a set, written as a repetition, is a run of them. -/
theorem leads_anyRun_iff
    {set : CharSet}
    (inside : start ≤ text.length) :
    Leads rule text.toArray ((Regexp.one set).repeated 0 none) start last ↔
      ∃ run : Text,
        (∀ c ∈ run, set.holds rule c = true) ∧
          Covers text start last run := by
  simp [leads_repeated_iff inside]

/-- At least one character of a set is a run that is not empty. -/
theorem leads_someRun_iff
    {set : CharSet} :
    Leads rule text.toArray ((Regexp.one set).repeated 1 none) start last ↔
      ∃ run : Text,
        run ≠ [] ∧
          (∀ c ∈ run, set.holds rule c = true) ∧
          Covers text start last run := by
  by_cases inside : start ≤ text.length
  · simp only [leads_repeated_iff inside, Nat.one_le_iff_ne_zero, ne_eq,
      List.length_eq_zero_iff]
  · constructor
    · intro leads
      obtain ⟨_, once, _⟩ := Leads.seq_iff.mp leads
      obtain ⟨_, _, covers⟩ := leads_one_iff.mp once
      exact absurd covers.start_le inside
    · intro covered
      obtain ⟨_, _, _, covers⟩ := covered
      exact absurd covers.start_le inside

/-- What may be left out leads on as it does itself, or stays. -/
theorem leads_atMostOnce_iff
    {body : Regexp} :
    Leads rule text.toArray (body.repeated 0 (some 1)) start last ↔
      Leads rule text.toArray body start last ∨ last = start := by
  simp [repeated, times, sequence, upTo, optional]

/-- Two sequences in a row lead through a position between them. -/
theorem leads_sequence_append_iff
    {array : Array Char}
    {first second : List Regexp} :
    Leads rule array (sequence (first ++ second)) start last ↔
      ∃ middle,
        Leads rule array (sequence first) start middle ∧
          Leads rule array (sequence second) middle last := by
  induction first generalizing start with
  | nil =>
      simp [sequence]
  | cons head rest inductionHypothesis =>
      simp only [List.cons_append, leads_sequence_cons_iff,
        inductionHypothesis]
      constructor
      · intro leads
        obtain ⟨next, leadsHead, middle, leadsRest, leadsSecond⟩ := leads
        exact ⟨middle, ⟨next, leadsHead, leadsRest⟩, leadsSecond⟩
      · intro covered
        obtain ⟨middle, ⟨next, leadsHead, leadsRest⟩, leadsSecond⟩ := covered
        exact ⟨next, leadsHead, middle, leadsRest, leadsSecond⟩

end Regexp

end AdFilter
