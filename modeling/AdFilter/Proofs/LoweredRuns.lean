import AdFilter.Proofs.LetterCase

namespace AdFilter

/-!
# Runs of ASCII in lowered texts

Lowering maps every character on its own, except for two: the capital I with a dot becomes two characters, and the form of
the capital sigma depends on its neighbours.  A run of ASCII in a lowered text holds neither the second one of these
characters nor a sigma, so that it comes from a run of the text, and that run gives the same wherever else it stands.
-/

namespace Text

/-- A text is lowered to a text of ASCII, wherever it stands; only at its end may a character give more than that. -/
inductive LowersTo : Text → Text → Prop where
  | nil :
      LowersTo [] []
  | dotted :
      LowersTo ['İ'] ['i']
  | cons
      {c : Char}
      {source run : Text}
      (ascii : (lowerChar c).toNat < 0x80)
      (notDotted : c ≠ 'İ')
      (others : LowersTo source run) :
      LowersTo (c :: source) (lowerChar c :: run)

theorem lowerChar_dotted :
    lowerChar 'İ' = 'i' := by
  decide +kernel

theorem ne_sigma_of_lowerChar_ascii
    {c : Char}
    (ascii : (lowerChar c).toNat < 0x80) :
    c ≠ 'Σ' := by
  have sigma : ¬ (lowerChar 'Σ').toNat < 0x80 := by
    decide +kernel
  rintro rfl
  exact sigma ascii

variable {afterCased : Bool} {source run text : Text}

/-- Lowering goes through a text from the left; what follows a part of it is lowered in some state. -/
theorem exists_lowerFrom_append_any
    (front rest : Text)
    (afterCased : Bool) :
    ∃ lowered later,
      lowerFrom afterCased (front ++ rest) =
        lowered ++ lowerFrom later rest := by
  induction front generalizing afterCased with
  | nil =>
      exact ⟨[], afterCased, rfl⟩
  | cons c others inductionHypothesis =>
      obtain ⟨lowered, later, shape⟩ :=
        inductionHypothesis
          (if isCaseIgnorable c then afterCased else isCased c)
      rw [List.cons_append, lowerFrom, shape]
      exact ⟨_, later, (List.append_assoc ..).symm⟩

theorem exists_lowerFrom_cons
    {c : Char}
    (notDotted : c ≠ 'İ')
    (afterCased : Bool)
    (rest : Text) :
    ∃ lowered,
      lowerFrom afterCased (c :: rest) =
        lowered ::
          lowerFrom (if isCaseIgnorable c then afterCased else isCased c)
            rest := by
  rw [lowerFrom, if_neg notDotted]
  split <;> exact ⟨_, rfl⟩

/-! ## Where a run comes from -/

/-- What stands in front of a lowered text and is ASCII comes from the front of the text. -/
theorem exists_prefix_of_prefix_lowerFrom
    (ascii : ∀ c ∈ run, c.toNat < 0x80)
    (begins : run <+: lowerFrom afterCased text) :
    ∃ source, source <+: text ∧ LowersTo source run := by
  induction text generalizing afterCased run with
  | nil =>
      obtain rfl := List.prefix_nil.mp begins
      exact ⟨[], List.nil_prefix, .nil⟩
  | cons c rest inductionHypothesis =>
      cases run with
      | nil =>
          exact ⟨[], List.nil_prefix, .nil⟩
      | cons first others =>
          have firstAscii := ascii first (by simp)
          by_cases dotted : c = 'İ'
          · subst dotted
            rw [lowerFrom, if_pos rfl, List.cons_append, List.cons_append,
              List.cons_prefix_cons] at begins
            obtain ⟨rfl, beginsOthers⟩ := begins
            cases others with
            | nil =>
                exact ⟨['İ'], by simp, .dotted⟩
            | cons second more =>
                -- The second character of the dotted letter's form is not ASCII.
                exfalso
                obtain ⟨rfl, _⟩ := List.cons_prefix_cons.mp beginsOthers
                exact absurd (ascii '\u0307' (by simp)) (by decide)
          · by_cases sigma : c = 'Σ'
            · exfalso
              rw [lowerFrom, if_neg dotted, if_pos sigma,
                List.singleton_append, List.cons_prefix_cons] at begins
              rw [begins.1] at firstAscii
              split at firstAscii <;> revert firstAscii <;> decide
            · rw [lowerFrom, if_neg dotted, if_neg sigma,
                List.singleton_append, List.cons_prefix_cons] at begins
              obtain ⟨rfl, beginsOthers⟩ := begins
              obtain ⟨source, inFront, lowers⟩ :=
                inductionHypothesis
                  (fun d member => ascii d (by simp [member])) beginsOthers
              exact
                ⟨c :: source, List.cons_prefix_cons.mpr ⟨rfl, inFront⟩,
                  .cons firstAscii dotted lowers⟩

/-- A run of ASCII that does not begin with the first character of a lowered text comes from the others. -/
theorem infix_lowerFrom_of_not_prefix
    {c : Char}
    {rest : Text}
    (ascii : ∀ c ∈ run, c.toNat < 0x80)
    (occurs : run <:+: lowerFrom afterCased (c :: rest))
    (notFirst : ¬ run <+: lowerFrom afterCased (c :: rest)) :
    run <:+:
      lowerFrom (if isCaseIgnorable c then afterCased else isCased c) rest := by
  by_cases dotted : c = 'İ'
  · subst dotted
    rcases List.infix_cons_iff.mp occurs with first | afterFirst
    · exact absurd first notFirst
    · rcases List.infix_cons_iff.mp afterFirst with second | afterSecond
      · rcases List.prefix_cons_iff.mp second with rfl | ⟨others, rfl, _⟩
        · exact List.nil_infix
        · exact absurd (ascii '\u0307' (by simp)) (by decide)
      · exact afterSecond
  · obtain ⟨lowered, shape⟩ :=
      exists_lowerFrom_cons dotted afterCased rest
    rw [shape] at occurs notFirst
    exact (List.infix_cons_iff.mp occurs).resolve_left notFirst

/-- A run of ASCII in a lowered text comes from a run of the text. -/
theorem exists_infix_of_infix_lowerFrom
    (ascii : ∀ c ∈ run, c.toNat < 0x80)
    (occurs : run <:+: lowerFrom afterCased text) :
    ∃ source, source <:+: text ∧ LowersTo source run := by
  induction text generalizing afterCased with
  | nil =>
      obtain rfl := List.infix_nil.mp occurs
      exact ⟨[], List.nil_infix, .nil⟩
  | cons c rest inductionHypothesis =>
      by_cases begins : run <+: lowerFrom afterCased (c :: rest)
      · obtain ⟨source, inFront, lowers⟩ :=
          exists_prefix_of_prefix_lowerFrom ascii begins
        exact ⟨source, inFront.isInfix, lowers⟩
      · have inRest := infix_lowerFrom_of_not_prefix ascii occurs begins
        obtain ⟨source, inside, lowers⟩ := inductionHypothesis inRest
        exact ⟨source, List.infix_cons inside, lowers⟩

/-! ## What a run gives elsewhere -/

theorem LowersTo.exists_lowerFrom_append
    (lowers : LowersTo source run)
    (afterCased : Bool)
    (rest : Text) :
    ∃ later, lowerFrom afterCased (source ++ rest) = run ++ later := by
  induction lowers generalizing afterCased with
  | nil =>
      exact ⟨_, rfl⟩
  | dotted =>
      exact ⟨_, rfl⟩
  | @cons c source run ascii notDotted _ inductionHypothesis =>
      obtain ⟨later, shape⟩ :=
        inductionHypothesis
          (if isCaseIgnorable c then afterCased else isCased c)
      refine ⟨later, ?_⟩
      rw [List.cons_append, lowerFrom, if_neg notDotted,
        if_neg (ne_sigma_of_lowerChar_ascii ascii), shape]
      rfl

/-- Where a run stands in a text, what it is lowered to stands in the lowered text. -/
theorem LowersTo.infix_lower
    (lowers : LowersTo source run)
    (occurs : source <:+: text) :
    run <:+: lower text := by
  obtain ⟨front, rest, rfl⟩ := occurs
  obtain ⟨lowered, later, shape⟩ :=
    exists_lowerFrom_append_any front (source ++ rest) false
  obtain ⟨after, runShape⟩ := lowers.exists_lowerFrom_append later rest
  rw [lower, List.append_assoc, shape, runShape]
  exact List.infix_append' lowered run after

/-- A mark that a run does not have, its source does not have. -/
theorem LowersTo.not_mem_of_isMark
    (lowers : LowersTo source run)
    {mark : Char}
    (isOne : isMark mark = true)
    (absent : mark ∉ run) :
    mark ∉ source := by
  induction lowers with
  | nil =>
      exact absent
  | dotted =>
      rw [List.mem_singleton]
      rintro rfl
      exact absurd isOne (by decide)
  | @cons c source run ascii notDotted others inductionHypothesis =>
      rw [List.mem_cons, not_or] at absent ⊢
      refine ⟨?_, inductionHypothesis absent.2⟩
      rintro rfl
      exact absent.1 (lowerChar_of_isMark isOne).symm

theorem eq_lowerChar_of_sameLetter
    {expected c : Char}
    (ascii : (lowerChar expected).toNat < 0x80)
    (kept : c.toNat < 0x80 ∧ c.toLower = c)
    (same : sameLetter expected c = true) :
    c = lowerChar expected := by
  rw [sameLetter_iff_of_lowerChar_ascii ascii kept.1] at same
  exact kept.2.symm.trans same

/-- A run of ASCII is the only text in lower case and of ASCII that has the same letters as its source. -/
theorem LowersTo.eq_of_sameLetter
    (lowers : LowersTo source run)
    {piece : Text}
    (same :
      List.Forall₂ (fun expected c => sameLetter expected c = true)
        source piece)
    (kept : ∀ c ∈ piece, c.toNat < 0x80 ∧ c.toLower = c) :
    piece = run := by
  induction lowers generalizing piece with
  | nil =>
      exact List.forall₂_nil_left_iff.mp same
  | dotted =>
      obtain ⟨c, others, sameFirst, sameOthers, rfl⟩ :=
        List.forall₂_cons_left_iff.mp same
      obtain rfl := List.forall₂_nil_left_iff.mp sameOthers
      have first : c = lowerChar 'İ' :=
        eq_lowerChar_of_sameLetter
          (by rw [lowerChar_dotted]; decide) (kept c (by simp)) sameFirst
      rw [first, lowerChar_dotted]
  | cons ascii _ _ inductionHypothesis =>
      obtain ⟨c, others, sameFirst, sameOthers, rfl⟩ :=
        List.forall₂_cons_left_iff.mp same
      have first :=
        eq_lowerChar_of_sameLetter ascii (kept c (by simp)) sameFirst
      have rest :=
        inductionHypothesis sameOthers
          fun d member => kept d (by simp [member])
      rw [first, rest]

end Text

end AdFilter
