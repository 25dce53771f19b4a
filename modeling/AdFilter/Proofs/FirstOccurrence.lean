import Mathlib
import AdFilter.Text.Basic

namespace AdFilter

/-!
# The first occurrence of a text

Cutting a text at another one finds the first occurrence of the latter.  The text is put together from what stands before
the occurrence, the occurrence itself and what comes after it, and no other occurrence begins earlier.
-/

namespace Text

/-- A text is put together around an occurrence of `needle`, and no occurrence begins earlier. -/
structure OccursFirst (needle text before after : Text) : Prop where
  shape : text = before ++ (needle ++ after)
  earliest :
    ∀ front rest, text = front ++ (needle ++ rest) →
      before.length ≤ front.length

variable {needle text before after : Text}

/-- A text is cut around what it is cut at. -/
theorem eq_append_of_cut?
    (found : cut? needle text = some (before, after)) :
    text = before ++ (needle ++ after) := by
  induction text generalizing before with
  | nil =>
      by_cases nothing : needle = []
      · simp only [cut?, nothing, if_true, Option.some.injEq,
          Prod.mk.injEq] at found
        obtain ⟨rfl, rfl⟩ := found
        simp [nothing]
      · simp [cut?, nothing] at found
  | cons c rest inductionHypothesis =>
      simp only [cut?] at found
      split at found
      · rename_i rest begins
        obtain ⟨rfl, rfl⟩ := Prod.mk.inj (Option.some.inj found)
        exact (List.append_eq_of_isPrefixOf?_eq_some begins).symm
      · simp only [Option.map_eq_some_iff, Prod.exists,
          Prod.mk.injEq] at found
        obtain ⟨front, back, foundLater, rfl, rfl⟩ := found
        rw [inductionHypothesis foundLater]
        rfl

theorem infix_of_cut?
    (found : cut? needle text = some (before, after)) :
    needle <:+: text :=
  ⟨before, after, by rw [eq_append_of_cut? found, List.append_assoc]⟩

/-- A text in which no place is found to cut has no occurrence. -/
theorem not_infix_of_cut?_eq_none
    (notFound : cut? needle text = none) :
    ¬ needle <:+: text := by
  induction text with
  | nil =>
      intro occurs
      simp [cut?, List.infix_nil.mp occurs] at notFound
  | cons c rest inductionHypothesis =>
      simp only [cut?] at notFound
      split at notFound
      · cases notFound
      · rename_i noPrefix
        intro occurs
        rcases List.infix_cons_iff.mp occurs with begins | inRest
        · obtain ⟨others, shape⟩ := begins
          rw [List.isPrefixOf?_eq_some_iff_append_eq.mpr shape] at noPrefix
          cases noPrefix
        · exact inductionHypothesis (by simpa using notFound) inRest

/-- A text is cut where the first occurrence begins. -/
theorem occursFirst_of_cut?
    (found : cut? needle text = some (before, after)) :
    OccursFirst needle text before after := by
  refine ⟨eq_append_of_cut? found, ?_⟩
  -- On the text: an occurrence that begins where the text does would have been cut at.
  induction text generalizing before with
  | nil =>
      intro front rest shape
      have shapeHere := eq_append_of_cut? found
      simp_all
  | cons c others inductionHypothesis =>
      intro front rest shape
      simp only [cut?] at found
      split at found
      · obtain ⟨rfl, _⟩ := Prod.mk.inj (Option.some.inj found)
        exact Nat.zero_le _
      · rename_i noPrefix
        simp only [Option.map_eq_some_iff, Prod.exists,
          Prod.mk.injEq] at found
        obtain ⟨beforeOthers, _, foundLater, rfl, rfl⟩ := found
        cases front with
        | nil =>
            have begins : needle.isPrefixOf? (c :: others) = some rest :=
              List.isPrefixOf?_eq_some_iff_append_eq.mpr shape.symm
            rw [begins] at noPrefix
            cases noPrefix
        | cons first frontOthers =>
            have shapeOthers := (List.cons.inj shape).2
            exact Nat.succ_le_succ
              (inductionHypothesis foundLater frontOthers rest shapeOthers)

/-- There is one first occurrence at most. -/
theorem OccursFirst.unique
    {otherBefore otherAfter : Text}
    (occurs : OccursFirst needle text before after)
    (occursAlso : OccursFirst needle text otherBefore otherAfter) :
    before = otherBefore ∧ after = otherAfter := by
  have length : before.length = otherBefore.length :=
    Nat.le_antisymm
      (occurs.earliest _ _ occursAlso.shape)
      (occursAlso.earliest _ _ occurs.shape)
  have shapes :
      before ++ (needle ++ after) = otherBefore ++ (needle ++ otherAfter) :=
    occurs.shape.symm.trans occursAlso.shape
  obtain ⟨sameBefore, sameRest⟩ := List.append_inj shapes length
  exact ⟨sameBefore, List.append_cancel_left sameRest⟩

/-- A text is cut at an occurrence exactly if it is the first one. -/
theorem cut?_eq_some_iff :
    cut? needle text = some (before, after) ↔
      OccursFirst needle text before after := by
  constructor
  · exact occursFirst_of_cut?
  · intro occurs
    cases found : cut? needle text with
    | none =>
        exfalso
        have shape : (before ++ needle) ++ after = text := by
          rw [occurs.shape, List.append_assoc]
        exact not_infix_of_cut?_eq_none found ⟨before, after, shape⟩
    | some parts =>
        obtain ⟨rfl, rfl⟩ := (occursFirst_of_cut? found).unique occurs
        rfl

/-- A text is found in another one exactly if it is a part of it. -/
theorem contains_iff :
    contains needle text = true ↔ needle <:+: text := by
  rw [contains]
  cases found : cut? needle text with
  | none =>
      exact iff_of_false nofun (not_infix_of_cut?_eq_none found)
  | some parts =>
      exact iff_of_true rfl (infix_of_cut? found)

end Text

end AdFilter
