import AdFilter.Options.Basic
import AdFilter.Proofs.TextPieces
import Mathlib.Data.List.Basic

namespace AdFilter

/-!
# Options as they are written

A well-formed option is a key, perhaps with a tilde in front and a value after it.  Options that are joined by commas
and stand after a pattern and a dollar sign are read as they are, if the pattern has no dollar sign of its own.
-/

namespace OptionClause

/-- The key of an option: letters, digits, underscores and hyphens, at least one. -/
structure IsKey (key : Text) : Prop where
  notEmpty : key ≠ []
  chars : ∀ c ∈ key, isKeyChar c = true

/-- What follows the key of an option: nothing, or an equals sign and a value without commas. -/
inductive IsAssignment : Text → Prop where
  | nothing :
      IsAssignment []
  | value
      {value : Text}
      (noComma : ',' ∉ value) :
      IsAssignment ('=' :: value)

/-- An option that is well-formed, perhaps with a tilde in front. -/
inductive WellFormed : Text → Prop where
  | plain
      {key assignment : Text}
      (isKey : IsKey key)
      (isAssignment : IsAssignment assignment) :
      WellFormed (key ++ assignment)
  | negated
      {key assignment : Text}
      (isKey : IsKey key)
      (isAssignment : IsAssignment assignment) :
      WellFormed ('~' :: (key ++ assignment))

/-- The text of a pattern with options after it; without options there is no dollar sign either. -/
def written (pattern : Text) (options : List Text) : Text :=
  match options with
  | [] => pattern
  | _ => pattern ++ '$' :: [','].intercalate options

variable {key assignment option text pattern : Text} {options : List Text} {c : Char}

/-! ## Single options -/

theorem IsKey.not_mem
    (isKey : IsKey key)
    (excluded : isKeyChar c = false) :
    c ∉ key :=
  Text.not_mem_of_forall isKey.chars excluded

theorem IsAssignment.comma_not_mem
    (isAssignment : IsAssignment assignment) :
    ',' ∉ assignment := by
  cases isAssignment with
  | nothing =>
      exact List.not_mem_nil
  | value noComma =>
      simpa using noComma

theorem WellFormed.comma_not_mem
    (wellFormed : WellFormed option) :
    ',' ∉ option := by
  cases wellFormed with
  | plain isKey isAssignment =>
      rw [List.mem_append, not_or]
      exact ⟨isKey.not_mem (by decide), isAssignment.comma_not_mem⟩
  | negated isKey isAssignment =>
      rw [List.mem_cons, List.mem_append, not_or, not_or]
      exact
        ⟨by decide, isKey.not_mem (by decide), isAssignment.comma_not_mem⟩

/-- A key is what its characters make up, and the assignment is what follows it. -/
theorem keyPart_valuePart_append
    (isKey : IsKey key)
    (isAssignment : IsAssignment assignment) :
    keyPart (key ++ assignment) = key ∧
      valuePart (key ++ assignment) = assignment := by
  have ends :
      assignment.takeWhile isKeyChar = [] ∧
        assignment.dropWhile isKeyChar = assignment := by
    cases isAssignment with
    | nothing =>
        exact ⟨rfl, rfl⟩
    | value noComma =>
        exact ⟨rfl, rfl⟩
  rw [keyPart, valuePart, List.takeWhile_append_of_pos isKey.chars,
    List.dropWhile_append_of_pos isKey.chars, ends.1, ends.2]
  exact ⟨List.append_nil key, rfl⟩

theorem withoutTilde_append
    (isKey : IsKey key)
    (assignment : Text) :
    withoutTilde (key ++ assignment) = key ++ assignment := by
  cases key with
  | nil =>
      exact absurd rfl isKey.notEmpty
  | cons first rest =>
      have notTilde : first ≠ '~' := by
        rintro rfl
        exact isKey.not_mem (by decide) List.mem_cons_self
      rw [List.cons_append, withoutTilde]
      simpa using notTilde

theorem WellFormed.isOption
    (wellFormed : WellFormed option) :
    isOption option = true := by
  have rest_isOption
      {key assignment : Text}
      (isKey : IsKey key)
      (isAssignment : IsAssignment assignment)
      (shape : withoutTilde option = key ++ assignment) :
      OptionClause.isOption option = true := by
    obtain ⟨keyShape, valueShape⟩ :=
      keyPart_valuePart_append isKey isAssignment
    rw [OptionClause.isOption, shape, keyShape, valueShape]
    cases isAssignment <;> simp [isKey.notEmpty]
  cases wellFormed with
  | plain isKey isAssignment =>
      exact rest_isOption isKey isAssignment (withoutTilde_append isKey _)
  | negated isKey isAssignment =>
      exact rest_isOption isKey isAssignment rfl

/-- The key and the value of an option without tilde that is read as one. -/
theorem isKey_isAssignment_of_isOption
    (read : isOption option = true)
    (noComma : ',' ∉ option) :
    IsKey (keyPart (withoutTilde option)) ∧
      IsAssignment (valuePart (withoutTilde option)) := by
  simp only [isOption, ne_eq, Bool.and_eq_true, Bool.or_eq_true,
    decide_eq_true_eq] at read
  obtain ⟨notEmpty, valueShape⟩ := read
  refine ⟨⟨notEmpty, fun c member => List.mem_takeWhile_imp member⟩, ?_⟩
  have subset : ∀ c ∈ valuePart (withoutTilde option), c ∈ option := by
    intro c member
    have inRest := (List.dropWhile_sublist isKeyChar).subset member
    unfold withoutTilde at inRest
    split at inRest
    · exact List.mem_cons_of_mem _ inRest
    · exact inRest
  cases value : valuePart (withoutTilde option) with
  | nil =>
      exact .nothing
  | cons first rest =>
      rw [value] at valueShape subset
      have isEquals : first = '=' := by
        simpa using valueShape
      subst isEquals
      exact .value fun member =>
        noComma (subset ',' (List.mem_cons_of_mem _ member))

/-- The well-formed options are what is read as an option and has no comma. -/
theorem wellFormed_iff :
    WellFormed option ↔ isOption option = true ∧ ',' ∉ option := by
  constructor
  · intro wellFormed
    exact ⟨wellFormed.isOption, wellFormed.comma_not_mem⟩
  · rintro ⟨read, noComma⟩
    obtain ⟨isKey, isAssignment⟩ :=
      isKey_isAssignment_of_isOption read noComma
    have parts :
        keyPart (withoutTilde option) ++ valuePart (withoutTilde option) =
          withoutTilde option :=
      List.takeWhile_append_dropWhile
    by_cases negated : ∃ rest, option = '~' :: rest
    · obtain ⟨rest, rfl⟩ := negated
      have wellFormed := WellFormed.negated isKey isAssignment
      rwa [parts] at wellFormed
    · have same : withoutTilde option = option := by
        unfold withoutTilde
        split
        · exact absurd ⟨_, rfl⟩ negated
        · rfl
      have wellFormed := WellFormed.plain isKey isAssignment
      rwa [parts, same] at wellFormed

instance (option : Text) : Decidable (WellFormed option) :=
  decidable_of_iff _ wellFormed_iff.symm

/-! ## Clauses -/

/-- All pieces but the last are options as they are. -/
theorem ofPieces?_concat
    (init : List Text)
    (last : Text) :
    ofPieces? (init ++ [last]) =
      if init.all isOption then
        (lastOption? last).map fun option => init ++ [option]
      else
        none := by
  induction init with
  | nil =>
      rfl
  | cons first others inductionHypothesis =>
      have notLast : others ++ [last] ≠ [] :=
        List.concat_ne_nil last others
      rw [List.cons_append, ofPieces?, inductionHypothesis, List.all_cons]
      · cases isOption first <;> cases others.all isOption <;>
          cases lastOption? last <;> rfl
      · exact notLast

theorem ofPieces?_of_isOption
    (notEmpty : options ≠ [])
    (areOptions : ∀ option ∈ options, isOption option = true) :
    ofPieces? options = some options := by
  obtain ⟨init, last, rfl⟩ :=
    (List.eq_nil_or_concat' options).resolve_left notEmpty
  have earlierOptions : init.all isOption = true := by
    apply List.all_eq_true.mpr
    intro option member
    exact areOptions option (List.mem_append_left [last] member)
  have readLast : lastOption? last = some last := by
    rw [lastOption?, if_pos (areOptions last (by simp))]
  rw [ofPieces?_concat, if_pos earlierOptions, readLast, Option.map_some]

/-- Options that are joined by commas are read as they are. -/
theorem options?_intercalate
    (notEmpty : options ≠ [])
    (wellFormed : ∀ option ∈ options, WellFormed option) :
    options? ([','].intercalate options) = some options := by
  have cut : List.splitOn ',' ([','].intercalate options) = options :=
    List.splitOn_intercalate ','
      (fun option member => (wellFormed option member).comma_not_mem)
      notEmpty
  rw [options?, cut]
  exact ofPieces?_of_isOption notEmpty
    fun option member => (wellFormed option member).isOption

/-- Without a dollar sign, all of a text is pattern. -/
theorem split_of_not_mem
    (noDollar : '$' ∉ text) :
    split text = (text, []) := by
  induction text with
  | nil =>
      rfl
  | cons c rest inductionHypothesis =>
      rw [List.mem_cons, not_or] at noDollar
      rw [split, inductionHypothesis noDollar.2,
        if_neg (Ne.symm noDollar.1)]

/-- A text is cut at its first dollar sign if a clause follows it. -/
theorem split_append_of_options?
    {clause : Text}
    (noDollar : '$' ∉ pattern)
    (read : options? clause = some options) :
    split (pattern ++ '$' :: clause) = (pattern, options) := by
  induction pattern with
  | nil =>
      rw [List.nil_append, split, if_pos rfl, read]
  | cons c rest inductionHypothesis =>
      rw [List.mem_cons, not_or] at noDollar
      rw [List.cons_append, split, inductionHypothesis noDollar.2,
        if_neg (Ne.symm noDollar.1)]

/-- A text is split into the pattern and the options that it was written with. -/
theorem split_written
    (noDollar : '$' ∉ pattern)
    (wellFormed : ∀ option ∈ options, WellFormed option) :
    split (written pattern options) = (pattern, options) := by
  cases options with
  | nil =>
      exact split_of_not_mem noDollar
  | cons first others =>
      exact split_append_of_options? noDollar
        (options?_intercalate nofun wellFormed)

end OptionClause

namespace RuleOptions

variable {strict : Bool} {text pattern : Text} {options : List Text} {made : RuleOptions}

/-- What is read from a text is made of a pattern and of settings without faults. -/
theorem parse_eq_ok_iff :
    parse strict text = .ok made ↔
      ∃ blocking rest pattern options,
        blockingAndRest text = (blocking, rest) ∧
          OptionClause.split rest = (pattern, options) ∧
          fault? strict blocking pattern
            (options.map Setting.ofOption) = none ∧
          made =
            ofDraft blocking pattern
              (OptionDraft.ofSettings (options.map Setting.ofOption)) := by
  unfold parse
  cases start : blockingAndRest text with
  | mk blocking rest =>
      cases cut : OptionClause.split rest with
      | mk pattern options =>
          simp only [cut]
          constructor
          · intro accepted
            split at accepted
            · cases accepted
            · rename_i noFault
              exact
                ⟨blocking, rest, pattern, options, rfl, cut, noFault,
                  (Except.ok.inj accepted).symm⟩
          · rintro ⟨_, _, _, _, same, sameCut, noFault, rfl⟩
            obtain ⟨rfl, rfl⟩ := Prod.mk.inj same
            obtain ⟨rfl, rfl⟩ := Prod.mk.inj (cut.symm.trans sameCut)
            rw [noFault]

theorem blockingAndRest_of_noMark
    (noMark : ¬ ['@', '@'] <+: text) :
    blockingAndRest text = (true, text) := by
  unfold blockingAndRest
  split
  · exact absurd ⟨_, rfl⟩ noMark
  · rfl

/-- Options that are written after a pattern are no part of the mark of an exception. -/
theorem mark_prefix_append_dollar_iff
    (pattern clause : Text) :
    ['@', '@'] <+: pattern ++ '$' :: clause ↔ ['@', '@'] <+: pattern := by
  match pattern with
  | [] =>
      simp [List.cons_prefix_cons]
  | [c] =>
      simp [List.cons_prefix_cons]
  | c :: d :: rest =>
      simp [List.cons_prefix_cons]

/-- Whether a text is that of an exception does not depend on the options that it is written with. -/
theorem blockingAndRest_written
    (pattern : Text)
    (options : List Text) :
    blockingAndRest (OptionClause.written pattern options) =
      ((blockingAndRest pattern).1,
        OptionClause.written (blockingAndRest pattern).2 options) := by
  cases options with
  | nil =>
      rfl
  | cons first others =>
      unfold OptionClause.written
      by_cases mark : ['@', '@'] <+: pattern
      · obtain ⟨rest, rfl⟩ := mark
        rfl
      · have noMark :=
          (mark_prefix_append_dollar_iff pattern
            ([','].intercalate (first :: others))).not.mpr mark
        rw [blockingAndRest_of_noMark noMark,
          blockingAndRest_of_noMark mark]

theorem not_mem_blockingAndRest
    {c : Char}
    (absent : c ∉ text) :
    c ∉ (blockingAndRest text).2 := by
  unfold blockingAndRest
  split
  · simp only [List.mem_cons, not_or] at absent
    exact absent.2.2
  · exact absent

/-- What a pattern and well-formed options are read as, unless they have a fault. -/
theorem parse_written_eq_ok_iff
    (noDollar : '$' ∉ pattern)
    (wellFormed : ∀ option ∈ options, OptionClause.WellFormed option) :
    parse strict (OptionClause.written pattern options) = .ok made ↔
      fault? strict (blockingAndRest pattern).1 (blockingAndRest pattern).2
          (options.map Setting.ofOption) = none ∧
        made =
          ofDraft (blockingAndRest pattern).1 (blockingAndRest pattern).2
            (OptionDraft.ofSettings (options.map Setting.ofOption)) := by
  have cut :=
    OptionClause.split_written (not_mem_blockingAndRest noDollar) wellFormed
  rw [parse_eq_ok_iff]
  constructor
  · rintro ⟨_, _, _, _, start, sameCut, noFault, rfl⟩
    rw [blockingAndRest_written] at start
    obtain ⟨rfl, rfl⟩ := Prod.mk.inj start
    obtain ⟨rfl, rfl⟩ := Prod.mk.inj (cut.symm.trans sameCut)
    exact ⟨noFault, rfl⟩
  · rintro ⟨noFault, rfl⟩
    exact
      ⟨_, _, _, _, blockingAndRest_written pattern options, cut, noFault,
        rfl⟩

end RuleOptions

end AdFilter
