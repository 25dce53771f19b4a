import AdFilter.Proofs.DirectSearch
import AdFilter.Proofs.DomainRules
import AdFilter.Proofs.KeywordOccurrence
import AdFilter.Proofs.RepeatedLowering

namespace AdFilter

/-!
# Anchored patterns with and without a separator

A plain body that is anchored to a label is looked for directly, and only its first occurrence counts.  With a separator
at the end it has an expression, which tries every occurrence, passes any number of slashes after a scheme and takes more
letters for the same.  What the expression fits is therefore not always found without the separator; it is said here when.
-/

namespace Pattern

variable {matchCase : Bool} {body location before piece after front rest : Text}

/-- The text of a pattern that is anchored to a label. -/
def anchored (body : Text) : Text :=
  '|' :: '|' :: body

/-- A text as patterns compare it: in lower case, unless letter case matters. -/
def compared (matchCase : Bool) (text : Text) : Text :=
  if matchCase then text else Text.lower text

/-- How the characters of an expression are compared. -/
def ruleFor (matchCase : Bool) : CaseRule :=
  if matchCase then .exact else .ignored

/-! ## With a separator -/

/-- A plain body with a separator after it fits at the label of a location that some text leads to. -/
structure FitsAt (matchCase : Bool) (body location before piece after : Text) : Prop where
  shape : compared matchCase location = before ++ (piece ++ after)
  leads : LeadsToLabel before
  same : List.Forall₂ (ruleFor matchCase).Same body piece
  separated : beginsWithSeparator after = true

/-- With a separator, a pattern matches exactly if its body fits at some label. -/
theorem matchesRequest_separated_iff
    (plain : isPlain body = true)
    (request : Request) :
    (ofText (anchored (body ++ ['^'])) matchCase).matchesRequest request =
        true ↔
      ∃ before piece after,
        FitsAt matchCase body request.location before piece after := by
  have noWildcard := not_mem_of_isPlain plain (by decide : isSpecial '*' = true)
  have noSeparator :=
    not_mem_of_isPlain plain (by decide : isSpecial '^' = true)
  have textShape : anchored (body ++ ['^']) = DomainRule.text body :=
    rfl
  rw [textShape, matchesRequest,
    foundIn_iff_shape (DomainRule.isLiteralText_text body), comparedLocation,
    matchCase_ofText, DomainRule.ofText_text]
  constructor
  · rintro ⟨before, here, after, shape, leads, reads, _⟩
    obtain ⟨between, readsBody, readsSeparator⟩ := reads.exists_between
    obtain ⟨piece, rfl, same⟩ :=
      readsBody.exists_same noWildcard noSeparator
    exact
      ⟨before, piece, between, shape, leads, same,
        (exists_bodyReads_separator_iff _ between).mp
          ⟨after, readsSeparator⟩⟩
  · rintro ⟨before, piece, between, shape, leads, same, separated⟩
    obtain ⟨after, reads⟩ :=
      (exists_bodyReads_separator_iff (ruleFor matchCase) between).mpr
        separated
    exact
      ⟨before, piece ++ between, after, shape, leads,
        reads.append_same noWildcard noSeparator same,
        fun reachesEnd => absurd reachesEnd Bool.false_ne_true⟩

/-! ## Without a separator -/

theorem isLiteralText_anchored
    (plain : isPlain body = true) :
    isLiteralText (anchored body) = true := by
  have lead : ['|', '|'].isPrefixOf? (anchored body) = some body :=
    rfl
  rw [isLiteralText, lead]
  simp [plain]

theorem lower_anchored
    (body : Text) :
    Text.lower (anchored body) = anchored (Text.lower body) := by
  have notCased : Text.isCased '|' = false := by
    decide +kernel
  have kept : Text.lowerChar '|' = '|' := by
    decide
  simp [Text.lower, anchored, Text.lowerFrom, notCased, kept]

/-- Without a separator, a pattern matches exactly if its body occurs first where a label begins. -/
theorem matchesRequest_anchored_iff
    (plain : isPlain body = true)
    (request : Request) :
    (ofText (anchored body) matchCase).matchesRequest request = true ↔
      ∃ front rest,
        Text.OccursFirst (compared matchCase body)
            (compared matchCase request.location) front rest ∧
          endsBeforeLabel front = true := by
  have direct :
      (ofText (anchored body) matchCase).matchesRequest request =
        occursAtLabel (compared matchCase body)
          (compared matchCase request.location) := by
    rw [ofText, if_pos (isLiteralText_anchored plain)]
    cases matchCase with
    | true =>
        rfl
    | false =>
        change
          literalMatches (Text.lower (anchored body))
            (Text.lower request.location) = _
        rw [lower_anchored]
        rfl
  simp only [direct, occursAtLabel, ← Text.cut?_eq_some_iff]
  cases Text.cut? (compared matchCase body)
      (compared matchCase request.location) with
  | none =>
      simp
  | some parts =>
      simp [Prod.ext_iff]

/-! ## Where labels begin -/

theorem endsBeforeLabel_iff :
    endsBeforeLabel before = true ↔
      before = [] ∨ [':', '/', '/'] <:+ before ∨ ['.'] <:+ before := by
  have point_iff : before.getLast? = some '.' ↔ ['.'] <:+ before := by
    rw [List.getLast?_eq_some_iff]
    exact exists_congr fun front => eq_comm
  simp only [endsBeforeLabel, Bool.or_eq_true, decide_eq_true_eq,
    List.isSuffixOf_iff_suffix, point_iff, or_assoc]

/-- What leads to a label, but not right after two slashes or a point, ends with other slashes. -/
theorem LeadsToLabel.exists_slashes
    (leads : LeadsToLabel before)
    (noLabel : endsBeforeLabel before = false) :
    ∃ scheme slashes : Text,
      before = scheme ++ ':' :: slashes ∧
        slashes ≠ [] ∧
        (∀ c ∈ slashes, c = '/') ∧
        slashes.length ≠ 2 := by
  obtain ⟨scheme, slashes, labels, rfl, _, _, notEmpty, areSlashes, areLabels⟩ :=
    leads
  rw [← Bool.not_eq_true, endsBeforeLabel_iff, not_or, not_or] at noLabel
  obtain ⟨_, noTwoSlashes, noPoint⟩ := noLabel
  rcases areLabels with rfl | ⟨names, _, _, rfl⟩
  · refine ⟨scheme, slashes, by simp, notEmpty, areSlashes, ?_⟩
    intro two
    refine noTwoSlashes ⟨scheme, ?_⟩
    rw [show slashes = ['/', '/'] from
      List.eq_replicate_iff.mpr ⟨two, areSlashes⟩]
    rfl
  · exact absurd ⟨scheme ++ (':' :: (slashes ++ names)), by simp⟩ noPoint

/-- No label begins after a number of slashes other than two. -/
theorem endsBeforeLabel_of_slashes
    {scheme slashes : Text}
    (notEmpty : slashes ≠ [])
    (areSlashes : ∀ c ∈ slashes, c = '/')
    (notTwo : slashes.length ≠ 2) :
    endsBeforeLabel (scheme ++ ':' :: slashes) = false := by
  obtain ⟨count, rfl⟩ : ∃ count, slashes = List.replicate count '/' :=
    ⟨_, List.eq_replicate_of_mem areSlashes⟩
  have backwards :
      (scheme ++ ':' :: List.replicate count '/').reverse =
        List.replicate count '/' ++ ':' :: scheme.reverse := by
    simp
  rw [List.length_replicate] at notTwo
  rw [← Bool.not_eq_true, endsBeforeLabel_iff, ← List.reverse_prefix,
    ← List.reverse_prefix, backwards]
  rintro (isEmpty | twoSlashes | point)
  · simp at isEmpty
  · match count with
    | 0 =>
        exact notEmpty rfl
    | 1 =>
        simp at twoSlashes
    | 2 =>
        exact notTwo rfl
    | more + 3 =>
        simp [List.replicate_succ] at twoSlashes
  · match count with
    | 0 =>
        exact notEmpty rfl
    | more + 1 =>
        simp [List.replicate_succ] at point

/-! ## Letters -/

/-- Without regard to letter case, a lowered piece of ASCII has the same characters as its lowered body only. -/
theorem eq_map_toLower_of_same
    (bodyAscii : ∀ c ∈ body, c.toNat < 0x80)
    (pieceAscii : ∀ c ∈ piece, c.toNat < 0x80)
    (lowered : ∀ c ∈ piece, Text.lowerChar c = c)
    (same : List.Forall₂ CaseRule.ignored.Same body piece) :
    piece = body.map Char.toLower := by
  induction same with
  | nil =>
      rfl
  | @cons expected c _ _ sameFirst _ inductionHypothesis =>
      simp only [List.forall_mem_cons] at bodyAscii pieceAscii lowered
      have first : c = expected.toLower := by
        rw [← lowered.1, Text.lowerChar_of_ascii pieceAscii.1]
        exact
          (Text.sameLetter_iff_of_ascii bodyAscii.1 pieceAscii.1).mp sameFirst
      rw [List.map_cons, ← first,
        inductionHypothesis bodyAscii.2 pieceAscii.2 lowered.2]

/-- What a body fits is the text that is looked for, if letter case matters or all is ASCII. -/
theorem FitsAt.piece_eq
    (fits : FitsAt matchCase body location before piece after)
    (comparable :
      matchCase = true ∨
        ∀ c ∈ body ++ compared matchCase location, c.toNat < 0x80) :
    piece = compared matchCase body := by
  cases matchCase with
  | true =>
      exact eq_of_same_exact fits.same
  | false =>
      have ascii := comparable.resolve_left nofun
      rw [List.forall_mem_append] at ascii
      have inside : piece ⊆ Text.lower location := by
        rw [show Text.lower location = _ from fits.shape]
        exact (List.infix_append' before piece after).subset
      have equal :=
        eq_map_toLower_of_same ascii.1
          (fun c member => ascii.2 c (inside member))
          (fun c member => Text.lowerChar_of_mem_lowerFrom (inside member))
          fits.same
      rw [equal, compared, if_neg Bool.false_ne_true,
        Text.lower_of_ascii ascii.1]

/-! ## What is lost -/

/--
A body that fits with a separator after it is not found without one: its first occurrence is where no label begins, or
there is none.
-/
inductive IsLost (matchCase : Bool) (body location : Text) : Prop where
  -- The body fits after its first occurrence, or where only an expression takes the letters for the same.
  | hidden
      {front rest before piece after : Text}
      (first :
        Text.OccursFirst (compared matchCase body)
          (compared matchCase location) front rest)
      (noLabel : endsBeforeLabel front = false)
      (fits : FitsAt matchCase body location before piece after)
      (elsewhere :
        front.length < before.length ∨ piece ≠ compared matchCase body)
  -- The expression passes the slashes at which no label begins without it.
  | slashes
      {scheme slashes rest : Text}
      (first :
        Text.OccursFirst (compared matchCase body)
          (compared matchCase location) (scheme ++ ':' :: slashes) rest)
      (notEmpty : slashes ≠ [])
      (areSlashes : ∀ c ∈ slashes, c = '/')
      (notTwo : slashes.length ≠ 2)
  -- Only an expression takes some letters beyond ASCII for those of the body.
  | respelled
      (ignoresCase : matchCase = false)
      (beyond :
        ∃ c ∈ body ++ compared matchCase location, 0x80 ≤ c.toNat)
      (absent :
        ¬ compared matchCase body <:+: compared matchCase location)

/-- If the text that is looked for occurs nowhere, the body fits in other letters. -/
theorem FitsAt.isLost_of_absent
    (fits : FitsAt matchCase body location before piece after)
    (absent :
      ¬ compared matchCase body <:+: compared matchCase location) :
    IsLost matchCase body location := by
  have otherLetters : piece ≠ compared matchCase body := by
    rintro rfl
    rw [fits.shape] at absent
    exact absent (List.infix_append' _ _ _)
  have notComparable := mt fits.piece_eq otherLetters
  rw [not_or] at notComparable
  refine .respelled (Bool.eq_false_iff.mpr notComparable.1) ?_ absent
  simpa using notComparable.2

/-- If the first occurrence is where no label begins, the body fits elsewhere or after other slashes. -/
theorem FitsAt.isLost_of_first
    (fits : FitsAt matchCase body location before piece after)
    (first :
      Text.OccursFirst (compared matchCase body)
        (compared matchCase location) front rest)
    (noLabel : endsBeforeLabel front = false) :
    IsLost matchCase body location := by
  by_cases sought : piece = compared matchCase body
  · have shape := fits.shape
    rw [sought] at shape
    rcases (first.earliest _ _ shape).lt_or_eq with later | here
    · exact .hidden first noLabel fits (Or.inl later)
    · have sameFront : front = before :=
        (List.append_inj (first.shape.symm.trans shape) here).1
      rw [← sameFront] at fits
      obtain ⟨_, _, rfl, notEmpty, areSlashes, notTwo⟩ :=
        fits.leads.exists_slashes noLabel
      exact .slashes first notEmpty areSlashes notTwo
  · exact .hidden first noLabel fits (Or.inr sought)

/-- What is lost does not occur first where a label begins. -/
theorem IsLost.endsBeforeLabel_eq_false
    (lost : IsLost matchCase body location)
    (first :
      Text.OccursFirst (compared matchCase body)
        (compared matchCase location) front rest) :
    endsBeforeLabel front = false := by
  cases lost with
  | hidden firstToo noLabel _ _ =>
      rwa [(first.unique firstToo).1]
  | slashes firstToo notEmpty areSlashes notTwo =>
      rw [(first.unique firstToo).1]
      exact endsBeforeLabel_of_slashes notEmpty areSlashes notTwo
  | respelled _ _ absent =>
      rw [first.shape] at absent
      exact absurd (List.infix_append' _ _ _) absent

/-- A plain body that is anchored to a label and matches with a separator after it matches without one unless it is lost. -/
theorem matchesRequest_without_separator_iff
    {request : Request}
    (plain : isPlain body = true)
    (matched :
      (ofText (anchored (body ++ ['^'])) matchCase).matchesRequest request =
        true) :
    (ofText (anchored body) matchCase).matchesRequest request = true ↔
      ¬ IsLost matchCase body request.location := by
  obtain ⟨before, piece, after, fits⟩ :=
    (matchesRequest_separated_iff plain request).mp matched
  rw [matchesRequest_anchored_iff plain]
  constructor
  · rintro ⟨front, rest, first, begins⟩ lost
    rw [lost.endsBeforeLabel_eq_false first] at begins
    cases begins
  · intro notLost
    cases found : Text.cut? (compared matchCase body)
        (compared matchCase request.location) with
    | none =>
        exact absurd
          (fits.isLost_of_absent (Text.not_infix_of_cut?_eq_none found))
          notLost
    | some parts =>
        have first := Text.cut?_eq_some_iff.mp found
        refine ⟨parts.1, parts.2, first, ?_⟩
        by_contra noLabel
        exact notLost
          (fits.isLost_of_first first (Bool.eq_false_iff.mpr noLabel))

/-- A body in capitals that occurs again later in a location is found without its separator. -/
theorem matchesRequest_without_separator_repeated :
    isPlain "B".toList = true ∧
      (ofText (anchored ("B".toList ++ ['^'])) false).matchesRequest
          ⟨"http://b/xb/".toList, none⟩ = true ∧
      (ofText (anchored "B".toList) false).matchesRequest
          ⟨"http://b/xb/".toList, none⟩ = true := by
  have plain : isPlain "B".toList = true := by
    decide
  have matched :
      (ofText (anchored ("B".toList ++ ['^'])) false).matchesRequest
        ⟨"http://b/xb/".toList, none⟩ = true := by
    decide +kernel
  refine
    ⟨plain, matched,
      (matchesRequest_without_separator_iff plain matched).mpr ?_⟩
  intro lost
  have first :
      Text.cut? (compared false "B".toList)
          (compared false "http://b/xb/".toList) =
        some ("http://".toList, "/xb/".toList) := by
    decide +kernel
  have noLabel :=
    lost.endsBeforeLabel_eq_false (Text.cut?_eq_some_iff.mp first)
  exact absurd noLabel (by decide)

/-- A body that occurs first inside a label is not found without its separator, though it fits later with one. -/
theorem not_matchesRequest_of_hidden_body :
    isPlain "a".toList = true ∧
      (ofText (anchored ("a".toList ++ ['^'])) true).matchesRequest
          ⟨"http://xa.a/".toList, none⟩ = true ∧
      (ofText (anchored "a".toList) true).matchesRequest
          ⟨"http://xa.a/".toList, none⟩ = false := by
  decide +kernel

end Pattern

end AdFilter
