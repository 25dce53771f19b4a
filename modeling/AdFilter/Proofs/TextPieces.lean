import AdFilter.Text.Basic
import Mathlib.Data.List.Infix
import Mathlib.Data.List.TakeWhile

namespace AdFilter

/-!
# Texts in pieces

What follows the occurrences of a mark, and the pieces between them.  Texts that are joined with a mark between them can be
taken apart at any of these places.
-/

namespace Text

variable {mark : Char} {text tail piece last : Text}

theorem mem_tailsAfter_iff :
    tail ∈ tailsAfter mark text ↔ (mark :: tail) <:+ text := by
  induction text with
  | nil =>
      simp [tailsAfter]
  | cons c rest inductionHypothesis =>
      rw [List.suffix_cons_iff, List.cons_eq_cons, ← inductionHypothesis,
        tailsAfter]
      by_cases isMark : c = mark
      · simp [isMark]
      · simp [isMark, Ne.symm isMark]

theorem length_lt_of_mem_tailsAfter
    (member : tail ∈ tailsAfter mark text) :
    tail.length < text.length :=
  (mem_tailsAfter_iff.mp member).length_le

theorem pairwise_tailsAfter
    (mark : Char)
    (text : Text) :
    (tailsAfter mark text).Pairwise
      fun longer shorter => shorter.length < longer.length := by
  induction text with
  | nil =>
      exact .nil
  | cons c rest inductionHypothesis =>
      rw [tailsAfter]
      split
      · exact
          .cons (fun _ => length_lt_of_mem_tailsAfter) inductionHypothesis
      · exact inductionHypothesis

/-- As many tails follow marks as there are marks. -/
theorem length_tailsAfter
    (mark : Char)
    (text : Text) :
    (tailsAfter mark text).length = text.count mark := by
  induction text with
  | nil =>
      rfl
  | cons c rest inductionHypothesis =>
      rw [tailsAfter, List.count_cons, ← inductionHypothesis]
      by_cases isMark : c = mark
      · simp [isMark]
      · simp [isMark]

theorem tailsAfter_eq_nil_of_not_mem
    (noMark : mark ∉ text) :
    tailsAfter mark text = [] := by
  rw [← List.length_eq_zero_iff, length_tailsAfter]
  exact List.count_eq_zero_of_not_mem noMark

/-- What follows the first mark is the first tail, and has the other ones. -/
theorem tailsAfter_append_cons_of_not_mem
    (noMark : mark ∉ piece) :
    tailsAfter mark (piece ++ mark :: tail) =
      tail :: tailsAfter mark tail := by
  induction piece with
  | nil =>
      simp [tailsAfter]
  | cons c rest inductionHypothesis =>
      rw [List.mem_cons, not_or] at noMark
      rw [List.cons_append, tailsAfter, if_neg (Ne.symm noMark.1),
        inductionHypothesis noMark.2]

/-- The pieces of a text begin at its start and after each separator. -/
theorem splitOn_eq_map_tails
    (separator : Char)
    (text : Text) :
    List.splitOn separator text =
      (text :: tailsAfter separator text).map
        (List.takeWhile (· ≠ separator)) := by
  induction text with
  | nil =>
      simp [tailsAfter]
  | cons c rest inductionHypothesis =>
      rw [List.splitOn_cons_eq_if_modifyHead, inductionHypothesis, tailsAfter]
      by_cases isSeparator : c = separator
      · simp [isSeparator]
      · simp [isSeparator]

theorem mem_cons_tailsAfter_iff :
    tail ∈ text :: tailsAfter mark text ↔ (mark :: tail) <:+ (mark :: text) := by
  rw [List.mem_cons, mem_tailsAfter_iff, List.suffix_cons_iff,
    List.cons_eq_cons]
  simp

/-- The pieces of a text between the occurrences of a character have characters of the text, but not that one. -/
theorem mem_of_mem_splitOn
    {separator c : Char}
    {piece : Text}
    (isPiece : piece ∈ List.splitOn separator text)
    (member : c ∈ piece) :
    c ∈ text ∧ c ≠ separator := by
  rw [splitOn_eq_map_tails] at isPiece
  obtain ⟨tail, isTail, rfl⟩ := List.mem_map.mp isPiece
  have inText : tail ⊆ text := by
    rcases List.mem_cons.mp isTail with rfl | afterMark
    · exact List.Subset.refl _
    · have isSuffix :=
        (List.suffix_cons separator tail).trans
          (mem_tailsAfter_iff.mp afterMark)
      exact isSuffix.subset
  exact
    ⟨inText ((List.takeWhile_sublist _).subset member),
      by simpa using List.mem_takeWhile_imp member⟩

/-- Texts that are joined with a mark between them can be joined in two parts, with the mark between the parts. -/
theorem intercalate_append
    {before after : List Text}
    (beforeNotEmpty : before ≠ [])
    (afterNotEmpty : after ≠ []) :
    [mark].intercalate (before ++ after) =
      [mark].intercalate before ++ mark :: [mark].intercalate after := by
  induction before with
  | nil =>
      exact absurd rfl beforeNotEmpty
  | cons first others inductionHypothesis =>
      cases others with
      | nil =>
          simp [List.intercalate_cons_of_ne_nil afterNotEmpty]
      | cons second rest =>
          have joinedOthers := inductionHypothesis nofun
          simp only [List.cons_append, List.append_assoc,
            List.intercalate_cons_cons] at joinedOthers ⊢
          rw [joinedOthers]

/-- What follows the last of some joined texts might as well be part of it. -/
theorem intercalate_concat_append
    (init : List Text)
    (last more : Text) :
    [mark].intercalate (init ++ [last ++ more]) =
      [mark].intercalate (init ++ [last]) ++ more := by
  by_cases isEmpty : init = []
  · simp [isEmpty]
  · rw [intercalate_append isEmpty (List.cons_ne_nil _ _),
      intercalate_append isEmpty (List.cons_ne_nil _ _)]
    simp

/-- With a mark in front of the text, a piece follows a mark and reaches up to the end or to another mark. -/
theorem mem_splitOn_iff :
    piece ∈ List.splitOn mark text ↔
      mark ∉ piece ∧
        ∃ rest,
          (mark :: (piece ++ rest)) <:+ (mark :: text) ∧
            (rest = [] ∨ ∃ others, rest = mark :: others) := by
  simp only [splitOn_eq_map_tails, List.mem_map, mem_cons_tailsAfter_iff]
  constructor
  · rintro ⟨tail, isSuffix, rfl⟩
    refine ⟨?_, tail.dropWhile (· ≠ mark), ?_, ?_⟩
    · intro member
      simpa using List.mem_takeWhile_imp member
    · rwa [List.takeWhile_append_dropWhile]
    · have stopped := List.head?_dropWhile_not (· ≠ mark) tail
      cases shape : tail.dropWhile (· ≠ mark) with
      | nil =>
          exact Or.inl rfl
      | cons c others =>
          rw [shape] at stopped
          exact Or.inr ⟨others, by simpa using stopped⟩
  · rintro ⟨noMark, rest, isSuffix, ending⟩
    refine ⟨piece ++ rest, isSuffix, ?_⟩
    rw [List.takeWhile_append_of_pos]
    · rcases ending with rfl | ⟨others, rfl⟩ <;> simp
    · intro c member
      simpa using ne_of_mem_of_not_mem member noMark

/-- With a mark in front of the text, the last piece follows the last mark. -/
theorem getLast?_splitOn_iff :
    (List.splitOn mark text).getLast? = some last ↔
      mark ∉ last ∧ (mark :: last) <:+ (mark :: text) := by
  have marked :
      List.splitOn mark (mark :: text) = [] :: List.splitOn mark text := by
    simp [List.splitOn_cons_eq_if_modifyHead]
  rw [← List.getLast?_cons_of_ne_nil (List.splitOn_ne_nil mark text),
    ← marked]
  constructor
  · intro isLast
    have noMark : mark ∉ last := fun member =>
      (mem_of_mem_splitOn (List.mem_of_getLast? isLast) member).2 rfl
    refine ⟨noMark, ?_⟩
    obtain ⟨init, shape⟩ := List.getLast?_eq_some_iff.mp isLast
    have severalPieces : init ≠ [] := by
      rintro rfl
      rw [marked] at shape
      exact List.splitOn_ne_nil mark text (List.cons.inj shape).2
    have joined :
        [mark].intercalate (List.splitOn mark (mark :: text)) =
          mark :: text :=
      List.intercalate_splitOn mark
    rw [shape, intercalate_append severalPieces (List.cons_ne_nil _ _),
      List.intercalate_singleton] at joined
    exact ⟨_, joined⟩
  · rintro ⟨noMark, before, shape⟩
    rw [← shape, List.splitOn_append_cons_self,
      List.splitOn_eq_singleton noMark, List.getLast?_concat]

/-- A text without a mark is a piece where marks stand on both sides of it, if there are some around the whole text. -/
theorem mem_splitOn_iff_infix
    (noMark : mark ∉ piece) :
    piece ∈ List.splitOn mark text ↔
      (mark :: (piece ++ [mark])) <:+: (mark :: (text ++ [mark])) := by
  rw [mem_splitOn_iff, and_iff_right noMark]
  constructor
  · rintro ⟨rest, ⟨before, shape⟩, ending⟩
    have inside : mark :: (text ++ [mark]) = (mark :: text) ++ [mark] := rfl
    rw [inside, ← shape]
    rcases ending with rfl | ⟨others, rfl⟩
    · exact ⟨before, [], by simp⟩
    · exact ⟨before, others ++ [mark], by simp⟩
  · rintro ⟨before, after, shape⟩
    rcases List.eq_nil_or_concat' after with rfl | ⟨init, c, rfl⟩
    · have sameEnds :
          (before ++ mark :: (piece ++ [])) ++ [mark] =
            (mark :: text) ++ [mark] := by
        simpa using shape
      exact
        ⟨[], ⟨before, (List.append_inj' sameEnds rfl).1⟩, Or.inl rfl⟩
    · have sameEnds :
          (before ++ mark :: (piece ++ mark :: init)) ++ [c] =
            (mark :: text) ++ [mark] := by
        simpa using shape
      exact
        ⟨mark :: init, ⟨before, (List.append_inj' sameEnds rfl).1⟩,
          Or.inr ⟨init, rfl⟩⟩

/-! ## Runs that stop -/

/-- A character without a property is not in a text of characters that have it. -/
theorem not_mem_of_forall
    {holds : Char → Bool}
    (inside : ∀ c ∈ text, holds c = true)
    (outside : holds mark = false) :
    mark ∉ text := by
  intro member
  rw [inside mark member] at outside
  cases outside

theorem forall_ne_of_not_mem
    (absent : mark ∉ text) :
    ∀ c ∈ text, decide (c ≠ mark) = true := by
  intro c member
  rw [decide_eq_true_eq]
  rintro rfl
  exact absent member

theorem takeWhile_append_of_stops
    {goesOn : Char → Bool}
    (inside : ∀ c ∈ text, goesOn c = true)
    (stops : ∀ c ∈ tail.head?, goesOn c = false) :
    (text ++ tail).takeWhile goesOn = text := by
  rw [List.takeWhile_append_of_pos inside]
  cases tail with
  | nil =>
      exact List.append_nil text
  | cons c others =>
      have stopsHere : ¬ goesOn c = true := by
        simp [stops c rfl]
      rw [List.takeWhile_cons_of_neg stopsHere, List.append_nil]

/-- A text is cut in one way only into characters with a property and a rest that does not begin with one. -/
theorem append_inj_of_run
    {holds : Char → Prop}
    {first second firstRest secondRest : Text}
    (firstHolds : ∀ c ∈ first, holds c)
    (secondHolds : ∀ c ∈ second, holds c)
    (firstStops : ∀ c, firstRest.head? = some c → ¬ holds c)
    (secondStops : ∀ c, secondRest.head? = some c → ¬ holds c)
    (same : first ++ firstRest = second ++ secondRest) :
    first = second ∧ firstRest = secondRest := by
  classical
  let goesOn (c : Char) : Bool := decide (holds c)
  have firstCut : (first ++ firstRest).takeWhile goesOn = first :=
    takeWhile_append_of_stops (by simpa [goesOn] using firstHolds)
      (by simpa [goesOn] using firstStops)
  have secondCut : (second ++ secondRest).takeWhile goesOn = second :=
    takeWhile_append_of_stops (by simpa [goesOn] using secondHolds)
      (by simpa [goesOn] using secondStops)
  have sameRun : first = second := by
    calc
      first = (first ++ firstRest).takeWhile goesOn := firstCut.symm
      _ = (second ++ secondRest).takeWhile goesOn := by rw [same]
      _ = second := secondCut
  rw [sameRun] at same
  exact ⟨sameRun, List.append_cancel_left same⟩

end Text

end AdFilter
