import AdFilter.Proofs.FirstOccurrence
import AdFilter.Proofs.PatternMeaning

namespace AdFilter

/-!
# Patterns that are looked for directly

A pattern without marks, or with nothing but a separator at its end, needs no expression, but it has one.  Without
marks both find the same.  A separator at the end makes a difference: the expression tries every occurrence of what
stands before the separator, while only the first one is looked at without an expression.
-/

namespace Pattern

variable {text body location : Text} {c : Char}

/-! ## The texts of these patterns -/

theorem not_mem_of_isPlain
    (plain : isPlain text = true)
    (isMark : isSpecial c = true) :
    c ∉ text := by
  intro member
  have special : text.any isSpecial = true :=
    List.any_eq_true.mpr ⟨c, member, isMark⟩
  simp [isPlain, special] at plain

/-- Without an anchor to a domain, a pattern that needs no expression has one mark at most: a separator at its end. -/
theorem isPlain_or_of_isLiteralText
    (direct : isLiteralText text = true)
    (noAnchor : ¬ ['|', '|'] <+: text) :
    isPlain text = true ∨
      ∃ body, text = body ++ ['^'] ∧ isPlain body = true := by
  rw [isLiteralText, Bool.or_eq_true, Bool.or_eq_true] at direct
  rcases direct with (plain | anchored) | separated
  · exact Or.inl plain
  · split at anchored
    · rename_i rest begins
      exact absurd ⟨rest, List.isPrefixOf?_eq_some_iff_append_eq.mp begins⟩ noAnchor
    · cases anchored
  · split at separated
    · rename_i body ends
      exact
        Or.inr
          ⟨body, (List.append_eq_of_isSuffixOf?_eq_some ends).symm, separated⟩
    · cases separated

theorem dropWhile_of_not_mem
    (absent : c ∉ text) :
    text.dropWhile (· = c) = text := by
  cases text with
  | nil =>
      rfl
  | cons first rest =>
      rw [List.mem_cons, not_or] at absent
      exact List.dropWhile_cons_of_neg (by simpa using Ne.symm absent.1)

/-- The shape of a pattern without wildcards and bars is all body. -/
theorem Shape.ofText_of_not_mem
    (noWildcard : '*' ∉ text)
    (noBar : '|' ∉ text) :
    Shape.ofText text = ⟨.nowhere, text, false⟩ := by
  have trimmed : Text.trim (· = '*') text = text := by
    rw [Text.trim, dropWhile_of_not_mem noWildcard,
      dropWhile_of_not_mem (by simpa using noWildcard),
      List.reverse_reverse]
  have noBarAtEnd : text.getLast? ≠ some '|' :=
    fun last => noBar (List.mem_of_getLast? last)
  have coreShape : core text = text := by
    have noPair : ['^', '|'].isSuffixOf text = false := by
      rw [Bool.eq_false_iff]
      intro ends
      exact noBarAtEnd (isSuffixOf_pair_iff.mp ends).1
    simp [core, trimmed, noPair]
  have noBarInFront : text.head? ≠ some '|' :=
    fun first => noBar (List.mem_of_head? first)
  rw [ofText, coreShape, ofCore_of_head?_ne noBarInFront, ofAnchored,
    isSuffixOf?_singleton, if_neg noBarAtEnd]

/-! ## What the expression finds -/

/-- What reads a body with plain characters in front reads these characters and then the rest of the body. -/
theorem bodyReads_append_of_isPlain
    (plain : isPlain body = true)
    (ends : EndRule)
    (rest here after : Text) :
    BodyReads .exact ends (body ++ rest) here after ↔
      ∃ between,
        here = body ++ between ∧ BodyReads .exact ends rest between after := by
  have noWildcard := not_mem_of_isPlain plain (by decide : isSpecial '*' = true)
  have noSeparator :=
    not_mem_of_isPlain plain (by decide : isSpecial '^' = true)
  constructor
  · intro reads
    obtain ⟨between, readsBody, readsRest⟩ := reads.exists_between
    obtain ⟨_, rfl, same⟩ := readsBody.exists_same noWildcard noSeparator
    rw [eq_of_same_exact same]
    exact ⟨between, rfl, readsRest⟩
  · rintro ⟨between, rfl, readsRest⟩
    exact
      readsRest.append_same noWildcard noSeparator
        (List.forall₂_same.mpr fun _ _ => rfl)

/-- A separator reads what follows exactly if that is at its end or goes on with a separator. -/
theorem exists_bodyReads_separator_iff
    (rule : CaseRule)
    (here : Text) :
    (∃ after, BodyReads rule .lastLineEnd ['^'] here after) ↔
      beginsWithSeparator here = true := by
  simp only [BodyReads, exists_eq_right, charReads_separator_iff]
  constructor
  · intro reads
    rcases reads with ⟨after, ⟨c, separates, rfl⟩ | ⟨rfl, rfl | rfl⟩⟩
    · exact separates
    · rfl
    · decide
  · intro begins
    cases here with
    | nil =>
        exact ⟨[], Or.inr ⟨rfl, Or.inl rfl⟩⟩
    | cons c rest =>
        exact ⟨rest, Or.inl ⟨c, begins, rfl⟩⟩

theorem foundIn_nowhere_iff
    {rule : CaseRule}
    {ends : EndRule} :
    Shape.FoundIn rule ends ⟨.nowhere, body, false⟩ location ↔
      ∃ before here,
        location = before ++ here ∧
          ∃ after, BodyReads rule ends body here after := by
  simp [Shape.FoundIn, Anchor.Admits]

/-- The shape of a plain pattern is found wherever its text occurs. -/
theorem foundIn_plain_iff
    (plain : isPlain text = true) :
    (Shape.ofText text).FoundIn .exact .lastLineEnd location ↔
      text <:+: location := by
  have readsText (here : Text) :
      (∃ after, BodyReads .exact .lastLineEnd text here after) ↔
        ∃ after, here = text ++ after := by
    have reads :=
      exists_congr (bodyReads_append_of_isPlain plain .lastLineEnd [] here)
    simpa [BodyReads] using reads
  rw [Shape.ofText_of_not_mem
      (not_mem_of_isPlain plain (by decide))
      (not_mem_of_isPlain plain (by decide)),
    foundIn_nowhere_iff]
  simp only [readsText]
  constructor
  · intro found
    obtain ⟨before, _, rfl, after, rfl⟩ := found
    exact List.infix_append' before text after
  · intro occurs
    obtain ⟨before, after, rfl⟩ := occurs
    exact ⟨before, text ++ after, by simp, after, rfl⟩

/-- The shape of a pattern with a separator at its end is found where the text before it stands before one or at the end. -/
theorem foundIn_separator_iff
    (plain : isPlain body = true) :
    (Shape.ofText (body ++ ['^'])).FoundIn .exact .lastLineEnd location ↔
      ∃ before after,
        location = before ++ (body ++ after) ∧
          beginsWithSeparator after = true := by
  have absent
      {mark : Char}
      (isMark : isSpecial mark = true)
      (different : mark ≠ '^') :
      mark ∉ body ++ ['^'] := by
    simpa [different] using not_mem_of_isPlain plain isMark
  rw [Shape.ofText_of_not_mem
      (absent (by decide) (by decide)) (absent (by decide) (by decide)),
    foundIn_nowhere_iff]
  simp only [bodyReads_append_of_isPlain plain]
  constructor
  · intro found
    obtain ⟨before, _, rfl, after, between, rfl, reads⟩ := found
    exact
      ⟨before, between, rfl,
        (exists_bodyReads_separator_iff .exact between).mp ⟨after, reads⟩⟩
  · intro found
    obtain ⟨before, between, rfl, begins⟩ := found
    obtain ⟨after, reads⟩ :=
      (exists_bodyReads_separator_iff .exact between).mpr begins
    exact ⟨before, body ++ between, rfl, after, between, rfl, reads⟩

/-! ## What is found without the expression -/

theorem literalMatches_of_not_mem
    (noBar : '|' ∉ text) :
    literalMatches text location =
      match ['^'].isSuffixOf? text with
      | some body => occursBeforeSeparator body location
      | none => Text.contains text location := by
  have noBarAtEnd : ['|'].isSuffixOf? text = none := by
    rw [isSuffixOf?_singleton, if_neg fun last => noBar (List.mem_of_getLast? last)]
  unfold literalMatches
  split
  · exact absurd List.mem_cons_self noBar
  · exact absurd List.mem_cons_self noBar
  · cases barAtEnd : ['|'].isSuffixOf? text with
    | none =>
        rfl
    | some _ =>
        cases noBarAtEnd.symm.trans barAtEnd

/-- A plain pattern is found wherever its text occurs. -/
theorem literalMatches_plain_iff
    (plain : isPlain text = true) :
    literalMatches text location = true ↔ text <:+: location := by
  have noSeparatorAtEnd : ['^'].isSuffixOf? text = none := by
    rw [isSuffixOf?_singleton, if_neg]
    intro last
    exact not_mem_of_isPlain plain (by decide) (List.mem_of_getLast? last)
  rw [literalMatches_of_not_mem (not_mem_of_isPlain plain (by decide)),
    noSeparatorAtEnd]
  exact Text.contains_iff

/-- A pattern with a separator at its end is found where the first occurrence of the text before it has one after it. -/
theorem literalMatches_separator_iff
    (plain : isPlain body = true) :
    literalMatches (body ++ ['^']) location = true ↔
      ∃ before after,
        Text.OccursFirst body location before after ∧
          beginsWithSeparator after = true := by
  have noBar : '|' ∉ body ++ ['^'] := by
    simpa using not_mem_of_isPlain plain (by decide : isSpecial '|' = true)
  have bodyShape : ['^'].isSuffixOf? (body ++ ['^']) = some body := by
    simp [isSuffixOf?_singleton]
  simp only [literalMatches_of_not_mem noBar, bodyShape,
    occursBeforeSeparator, ← Text.cut?_eq_some_iff]
  cases Text.cut? body location with
  | none =>
      simp
  | some parts =>
      simp [Prod.ext_iff]

/-! ## Agreement -/

/--
Of the occurrences in a location of what stands before the separator of a pattern, the first one goes on with something
else, and another one does not.
-/
def FitsOnlyLater (text location : Text) : Prop :=
  ∃ body,
    text = body ++ ['^'] ∧
      (∃ before after,
        Text.OccursFirst body location before after ∧
          beginsWithSeparator after = false) ∧
      ∃ before after,
        location = before ++ (body ++ after) ∧
          beginsWithSeparator after = true

/-- Without a separator at its end, a pattern does not depend on which occurrence is looked at. -/
theorem not_fitsOnlyLater_of_isPlain
    (plain : isPlain text = true) :
    ¬ FitsOnlyLater text location := by
  intro fits
  obtain ⟨body, rfl, _⟩ := fits
  exact not_mem_of_isPlain plain (by decide : isSpecial '^' = true) (by simp)

/-- If only a later occurrence fits, the pattern is not found where its shape is. -/
theorem literalMatches_of_fitsOnlyLater
    (plain : isPlain body = true)
    (fits : FitsOnlyLater (body ++ ['^']) location) :
    literalMatches (body ++ ['^']) location = false ∧
      (Shape.ofText (body ++ ['^'])).FoundIn
        .exact .lastLineEnd location := by
  obtain ⟨_, shape, ⟨before, after, occurs, goesOn⟩, later⟩ := fits
  obtain rfl := List.append_cancel_right shape
  refine ⟨?_, (foundIn_separator_iff plain).mpr later⟩
  rw [Bool.eq_false_iff]
  intro found
  obtain ⟨_, _, occursAlso, begins⟩ :=
    (literalMatches_separator_iff plain).mp found
  obtain ⟨_, rfl⟩ := occurs.unique occursAlso
  rw [begins] at goesOn
  cases goesOn

/-- Unless only a later occurrence fits, the pattern is found exactly where its shape is. -/
theorem literalMatches_iff_foundIn
    (plain : isPlain body = true)
    (notOnlyLater : ¬ FitsOnlyLater (body ++ ['^']) location) :
    literalMatches (body ++ ['^']) location = true ↔
      (Shape.ofText (body ++ ['^'])).FoundIn
        .exact .lastLineEnd location := by
  rw [literalMatches_separator_iff plain, foundIn_separator_iff plain]
  constructor
  · intro found
    obtain ⟨before, after, occurs, begins⟩ := found
    exact ⟨before, after, occurs.shape, begins⟩
  · intro found
    obtain ⟨front, rest, shape, restBegins⟩ := found
    cases first : Text.cut? body location with
    | none =>
        refine absurd ⟨front, rest, ?_⟩ (Text.not_infix_of_cut?_eq_none first)
        rw [shape, List.append_assoc]
    | some parts =>
        have occurs := Text.cut?_eq_some_iff.mp first
        refine ⟨parts.1, parts.2, occurs, ?_⟩
        by_contra goesOn
        exact notOnlyLater
          ⟨body, rfl,
            ⟨parts.1, parts.2, occurs, Bool.eq_false_iff.mpr goesOn⟩,
            front, rest, shape, restBegins⟩

/--
A pattern without an anchor to a domain that is looked for directly matches where its expression occurs, unless only a
later occurrence of what stands before its separator fits: then the expression occurs, and the pattern does not match.
-/
theorem matchesRequest_eq_occursIn_iff
    (direct : isLiteralText text = true)
    (noAnchor : ¬ ['|', '|'] <+: text)
    (request : Request) :
    ∃ expression,
      Regexp.parse? (source text) = some expression ∧
        ((ofText text true).matchesRequest request =
            expression.occursIn .exact request.location ↔
          ¬ FitsOnlyLater text request.location) ∧
        (FitsOnlyLater text request.location →
          (ofText text true).matchesRequest request = false) := by
  have asDirect :
      (ofText text true).matchesRequest request =
        literalMatches text request.location := by
    rw [ofText, if_pos direct]
    rfl
  have occurs_iff :
      (Shape.ofText text).collapsed.expression.occursIn
          .exact request.location = true ↔
        (Shape.ofText text).FoundIn .exact .lastLineEnd request.location :=
    occursIn_expression_iff.trans Shape.collapsed_foundIn_iff
  refine ⟨_, parse?_source text, ?_⟩
  rw [asDirect]
  rcases isPlain_or_of_isLiteralText direct noAnchor with
      plain | ⟨body, rfl, plain⟩
  · have never : ¬ FitsOnlyLater text request.location :=
      not_fitsOnlyLater_of_isPlain plain
    refine ⟨iff_of_true ?_ never, fun fits => absurd fits never⟩
    rw [Bool.eq_iff_iff, occurs_iff, foundIn_plain_iff plain]
    exact literalMatches_plain_iff plain
  · refine ⟨?_, fun fits => (literalMatches_of_fitsOnlyLater plain fits).1⟩
    rw [Bool.eq_iff_iff, occurs_iff]
    constructor
    · intro agree fits
      obtain ⟨notMatched, found⟩ := literalMatches_of_fitsOnlyLater plain fits
      rw [agree.mpr found] at notMatched
      cases notMatched
    · intro notOnlyLater
      exact literalMatches_iff_foundIn plain notOnlyLater

/-- Where the first occurrence fits, the pattern matches as its expression does, whatever the later ones are. -/
theorem matchesRequest_eq_occursIn_overlapping :
    isLiteralText "aa^".toList = true ∧
      ¬ ['|', '|'] <+: "aa^".toList ∧
      ∃ expression,
        Regexp.parse? (source "aa^".toList) = some expression ∧
          (ofText "aa^".toList true).matchesRequest
              ⟨"b/aa?aaab".toList, none⟩ =
            expression.occursIn .exact "b/aa?aaab".toList := by
  have direct : isLiteralText "aa^".toList = true := by
    decide
  have noAnchor : ¬ ['|', '|'] <+: "aa^".toList := by
    decide
  obtain ⟨expression, parsed, agree, _⟩ :=
    matchesRequest_eq_occursIn_iff direct noAnchor ⟨"b/aa?aaab".toList, none⟩
  refine ⟨direct, noAnchor, expression, parsed, agree.mpr ?_⟩
  intro fits
  obtain ⟨body, shape, ⟨before, after, occurs, goesOn⟩, _⟩ := fits
  have shapeHere : ['a', 'a'] ++ ['^'] = body ++ ['^'] :=
    shape
  obtain rfl := List.append_cancel_right shapeHere
  have first :
      Text.cut? ['a', 'a'] "b/aa?aaab".toList =
        some ("b/".toList, "?aaab".toList) := by
    decide
  obtain ⟨_, rfl⟩ := occurs.unique (Text.cut?_eq_some_iff.mp first)
  exact absurd goesOn (by decide)

/-- Only the first occurrence is looked at: the expression of this pattern occurs where the pattern does not match. -/
theorem not_matchesRequest_of_later_occurrence :
    isLiteralText "ads^".toList = true ∧
      ¬ ['|', '|'] <+: "ads^".toList ∧
      (ofText "ads^".toList true).matchesRequest
          ⟨"http://adsx/ads/".toList, none⟩ = false ∧
      (Regexp.parse? (source "ads^".toList)).map
          (fun expression =>
            expression.occursIn .exact "http://adsx/ads/".toList) =
        some true := by
  decide +kernel

end Pattern

end AdFilter
