import AdFilter.Proofs.FirstOccurrence
import AdFilter.Proofs.KeywordRuns
import AdFilter.Proofs.LoweredRuns
import AdFilter.Proofs.PatternMeaning

namespace AdFilter

/-!
# Keywords occur in what a pattern matches

A keyword is a run of the lowered pattern that holds no mark of a pattern.  Such a run is part of the body, and the body is
found in a location in one piece, whether it is looked for directly or through an expression.  An index by keywords
therefore loses no match, as long as the letters of the expression and those of the lowered location agree.
-/

variable {text run : Text}

/-! ## Runs without a mark -/

theorem infix_of_infix_cons
    {mark : Char}
    (absent : mark ∉ run)
    (occurs : run <:+: mark :: text) :
    run <:+: text := by
  rcases List.infix_cons_iff.mp occurs with begins | inside
  · rcases List.prefix_cons_iff.mp begins with rfl | ⟨others, rfl, _⟩
    · exact List.nil_infix
    · exact absurd List.mem_cons_self absent
  · exact inside

theorem infix_of_infix_concat
    {mark : Char}
    (absent : mark ∉ run)
    (occurs : run <:+: text ++ [mark]) :
    run <:+: text := by
  rw [← List.reverse_infix, List.reverse_append] at occurs
  rw [← List.reverse_infix]
  exact infix_of_infix_cons (by simpa using absent) occurs

theorem infix_dropWhile
    {drop : Char → Bool}
    (kept : ∀ c ∈ run, drop c = false)
    (occurs : run <:+: text) :
    run <:+: text.dropWhile drop := by
  induction text with
  | nil =>
      exact occurs
  | cons c rest inductionHypothesis =>
      rw [List.dropWhile_cons]
      split
      · rename_i dropped
        have absent : c ∉ run := by
          intro member
          rw [kept c member] at dropped
          cases dropped
        exact inductionHypothesis (infix_of_infix_cons absent occurs)
      · exact occurs

theorem infix_trim
    {drop : Char → Bool}
    (kept : ∀ c ∈ run, drop c = false)
    (occurs : run <:+: text) :
    run <:+: Text.trim drop text := by
  rw [Text.trim, ← List.reverse_infix, List.reverse_reverse]
  exact infix_dropWhile (by simpa using kept)
    (List.reverse_infix.mpr (infix_dropWhile kept occurs))

/-! ## What is looked for directly -/

namespace Pattern

theorem infix_of_occursAtLabel
    {location : Text}
    (occurs : occursAtLabel text location = true) :
    text <:+: location := by
  unfold occursAtLabel at occurs
  split at occurs
  · rename_i found
    exact Text.infix_of_cut? found
  · cases occurs

theorem infix_of_occursBeforeSeparator
    {location : Text}
    (occurs : occursBeforeSeparator text location = true) :
    text <:+: location := by
  unfold occursBeforeSeparator at occurs
  split at occurs
  · rename_i found
    exact Text.infix_of_cut? found
  · cases occurs

/-- Where a text is found directly, so is every run of it without the marks at its ends. -/
theorem infix_of_literalMatches
    {location : Text}
    (found : literalMatches text location = true)
    (noBar : '|' ∉ run)
    (noSeparator : '^' ∉ run)
    (occurs : run <:+: text) :
    run <:+: location := by
  unfold literalMatches at found
  split at found
  · have inRest := infix_of_infix_cons noBar (infix_of_infix_cons noBar occurs)
    exact inRest.trans (infix_of_occursAtLabel found)
  · have inRest := infix_of_infix_cons noBar occurs
    exact inRest.trans (List.isPrefixOf_iff_prefix.mp found).isInfix
  · split at found
    · rename_i body ends
      rw [← List.append_eq_of_isSuffixOf?_eq_some ends] at occurs
      have inBody := infix_of_infix_concat noBar occurs
      exact inBody.trans (List.isSuffixOf_iff_suffix.mp found).isInfix
    · split at found
      · rename_i body ends
        rw [← List.append_eq_of_isSuffixOf?_eq_some ends] at occurs
        have inBody := infix_of_infix_concat noSeparator occurs
        exact inBody.trans (infix_of_occursBeforeSeparator found)
      · exact occurs.trans (Text.contains_iff.mp found)

/-! ## What an expression finds -/

theorem infix_core
    (noWildcard : '*' ∉ run)
    (noBar : '|' ∉ run)
    (occurs : run <:+: text) :
    run <:+: core text := by
  have inTrimmed : run <:+: Text.trim (· = '*') text := by
    refine infix_trim ?_ occurs
    intro c member
    rw [decide_eq_false_iff_not]
    rintro rfl
    exact noWildcard member
  unfold core
  dsimp only
  split
  · rename_i barAfterSeparator
    obtain ⟨front, shape⟩ :=
      List.getLast?_eq_some_iff.mp
        (isSuffixOf_pair_iff.mp barAfterSeparator).1
    rw [shape] at inTrimmed ⊢
    rw [List.dropLast_concat]
    exact infix_of_infix_concat noBar inTrimmed
  · exact inTrimmed

theorem infix_body_ofAnchored
    (anchor : Anchor)
    (noBar : '|' ∉ run)
    (occurs : run <:+: text) :
    run <:+: (Shape.ofAnchored anchor text).body := by
  unfold Shape.ofAnchored
  split
  · rename_i body ends
    rw [← List.append_eq_of_isSuffixOf?_eq_some ends] at occurs
    exact infix_of_infix_concat noBar occurs
  · exact occurs

/-- Every run of a pattern without the marks at its ends is part of the body of its shape. -/
theorem infix_body_ofText
    (noWildcard : '*' ∉ run)
    (noBar : '|' ∉ run)
    (occurs : run <:+: text) :
    run <:+: (Shape.ofText text).body := by
  have inCore := infix_core noWildcard noBar occurs
  unfold Shape.ofText Shape.ofCore
  split
  · rename_i rest shape
    rw [shape] at inCore
    exact infix_body_ofAnchored .domainLabel noBar
      (infix_of_infix_cons noBar (infix_of_infix_cons noBar inCore))
  · rename_i rest _ shape
    rw [shape] at inCore
    exact infix_body_ofAnchored .addressStart noBar
      (infix_of_infix_cons noBar inCore)
  · exact infix_body_ofAnchored .nowhere noBar inCore

variable {rule : CaseRule} {ends : EndRule}

/-- Where a shape is found, so is a piece of the same characters as any run of its body without marks. -/
theorem Shape.FoundIn.exists_infix
    {shape : Shape}
    {location : Text}
    (found : shape.FoundIn rule ends location)
    (noWildcard : '*' ∉ run)
    (noSeparator : '^' ∉ run)
    (occurs : run <:+: shape.body) :
    ∃ piece, piece <:+: location ∧ List.Forall₂ rule.Same run piece := by
  obtain ⟨before, here, after, rfl, _, reads, _⟩ := found
  obtain ⟨front, rest, body⟩ := occurs
  rw [← body, List.append_assoc] at reads
  obtain ⟨middle, readsFront, readsMiddle⟩ := reads.exists_between
  obtain ⟨last, readsRun, _⟩ := readsMiddle.exists_between
  obtain ⟨first, rfl⟩ := readsFront.exists_piece
  obtain ⟨piece, rfl, same⟩ := readsRun.exists_same noWildcard noSeparator
  refine ⟨piece, ⟨before ++ first, last, ?_⟩, same⟩
  simp

/-! ## Keywords -/

theorem toNat_lt_of_isKeywordChar
    {c : Char}
    (isOne : isKeywordChar c = true) :
    c.toNat < 0x80 := by
  simp only [isKeywordChar, Bool.or_eq_true, decide_eq_true_eq] at isOne
  rcases isOne with (lower | digit) | rfl
  · exact toNat_lt_of_isAlpha (by simp [Char.isAlpha, lower])
  · exact toNat_lt_of_isDigit digit
  · decide

/-- A keyword is a run of the lowered pattern. -/
theorem of_mem_keywords
    {keyword : Text}
    (member : keyword ∈ keywords text) :
    keyword <:+: Text.lower text ∧
      ∀ c ∈ keyword, isKeywordChar c = true := by
  obtain ⟨before, after, isRun⟩ := mem_keywords_iff.mp member
  refine ⟨⟨before, after, ?_⟩, isRun.areChars⟩
  rw [List.append_assoc, isRun.shape]

/-- A keyword comes from a run of the pattern that has none of its marks. -/
theorem exists_source_of_mem_keywords
    {keyword : Text}
    (member : keyword ∈ keywords text) :
    ∃ source,
      source <:+: text ∧
        Text.LowersTo source keyword ∧
        '*' ∉ source ∧ '|' ∉ source ∧ '^' ∉ source := by
  obtain ⟨occurs, areChars⟩ := of_mem_keywords member
  obtain ⟨source, inText, lowers⟩ :=
    Text.exists_infix_of_infix_lowerFrom
      (fun c isOne => toNat_lt_of_isKeywordChar (areChars c isOne)) occurs
  have noMark
      (mark : Char)
      (isOne : Text.isMark mark = true)
      (noKeyword : isKeywordChar mark = false) :
      mark ∉ source :=
    lowers.not_mem_of_isMark isOne
      (Text.not_mem_of_forall areChars noKeyword)
  exact
    ⟨source, inText, lowers, noMark '*' (by decide) (by decide),
      noMark '|' (by decide) (by decide), noMark '^' (by decide) (by decide)⟩

/-- What a pattern that is looked for directly is found in has its keywords, after lowering. -/
theorem keyword_infix_of_literalMatches
    {matchCase : Bool}
    {request : Request}
    {keyword : Text}
    (found :
      literalMatches (literal text matchCase).soughtText
        ((literal text matchCase).comparedLocation request) = true)
    (member : keyword ∈ keywords text) :
    keyword <:+: request.locationLower := by
  cases matchCase with
  | false =>
      obtain ⟨occurs, areChars⟩ := of_mem_keywords member
      exact infix_of_literalMatches found
        (Text.not_mem_of_forall areChars (by decide))
        (Text.not_mem_of_forall areChars (by decide)) occurs
  | true =>
      obtain ⟨source, inText, lowers, _, noBar, noSeparator⟩ :=
        exists_source_of_mem_keywords member
      exact lowers.infix_lower
        (infix_of_literalMatches found noBar noSeparator inText)

/-- A location in which the shape of a pattern is found exactly has the keywords of the pattern, after lowering. -/
theorem keyword_infix_of_foundIn_exact
    {location keyword : Text}
    (found : (Shape.ofText text).FoundIn .exact ends location)
    (member : keyword ∈ keywords text) :
    keyword <:+: Text.lower location := by
  obtain ⟨source, inText, lowers, noWildcard, noBar, noSeparator⟩ :=
    exists_source_of_mem_keywords member
  obtain ⟨piece, inLocation, same⟩ :=
    found.exists_infix noWildcard noSeparator
      (infix_body_ofText noWildcard noBar inText)
  rw [eq_of_same_exact same] at inLocation
  exact lowers.infix_lower inLocation

/-- A lowered location of ASCII in which the shape of a pattern is found in any letter case has its keywords. -/
theorem keyword_infix_of_foundIn_ignored
    {location keyword : Text}
    (ascii : ∀ c ∈ location, c.toNat < 0x80)
    (found : (Shape.ofText text).FoundIn .ignored ends (Text.lower location))
    (member : keyword ∈ keywords text) :
    keyword <:+: Text.lower location := by
  obtain ⟨source, inText, lowers, noWildcard, noBar, noSeparator⟩ :=
    exists_source_of_mem_keywords member
  obtain ⟨piece, inLocation, same⟩ :=
    found.exists_infix noWildcard noSeparator
      (infix_body_ofText noWildcard noBar inText)
  have kept : ∀ c ∈ piece, c.toNat < 0x80 ∧ c.toLower = c :=
    fun c isOne => Text.kept_of_mem_lower ascii (inLocation.mem isOne)
  rw [← lowers.eq_of_sameLetter same kept]
  exact inLocation

theorem matchCase_ofText
    (text : Text)
    (matchCase : Bool) :
    (ofText text matchCase).matchCase = matchCase := by
  unfold ofText
  split <;> rfl

/--
If a pattern matches a request, all of its keywords occur in the lowered location: always if letter case matters or the
pattern is looked for directly, and otherwise for locations of ASCII.  An expression that ignores letter case takes some
letters beyond ASCII for letters of ASCII, which lowering leaves alone.
-/
theorem keyword_infix_of_matchesRequest
    {matchCase : Bool}
    {request : Request}
    (matched : (ofText text matchCase).matchesRequest request = true)
    (comparable :
      matchCase = true ∨
        (ofText text matchCase).isLiteral = true ∨
        ∀ c ∈ request.location, c.toNat < 0x80) :
    ∀ keyword ∈ keywords text, keyword <:+: request.locationLower := by
  intro keyword member
  cases shape : isLiteralText text with
  | true =>
      have direct : ofText text matchCase = literal text matchCase := by
        rw [ofText, if_pos shape]
      rw [direct] at matched
      exact keyword_infix_of_literalMatches matched member
  | false =>
      rw [matchesRequest, foundIn_iff_shape shape, comparedLocation,
        matchCase_ofText] at matched
      cases matchCase with
      | true =>
          exact keyword_infix_of_foundIn_exact matched member
      | false =>
          have ascii : ∀ c ∈ request.location, c.toNat < 0x80 := by
            simpa [isLiteral_ofText, shape] using comparable
          exact keyword_infix_of_foundIn_ignored ascii matched member

/-- The keywords of a pattern with an anchor and a wildcard occur in a location in capital letters. -/
theorem keyword_infix_of_capital_location :
    keywords "||Ads.*/bAnner^".toList = ["ads".toList, "banner".toList] ∧
      (ofText "||Ads.*/bAnner^".toList false).matchesRequest
          ⟨"HTTP://ADS.X/BANNER?".toList, none⟩ = true ∧
      "banner".toList <:+: "http://ads.x/banner?".toList := by
  have found :
      keywords "||Ads.*/bAnner^".toList =
        ["ads".toList, "banner".toList] := by
    decide +kernel
  have matched :
      (ofText "||Ads.*/bAnner^".toList false).matchesRequest
          ⟨"HTTP://ADS.X/BANNER?".toList, none⟩ = true := by
    decide +kernel
  have lowered :
      Request.locationLower ⟨"HTTP://ADS.X/BANNER?".toList, none⟩ =
        "http://ads.x/banner?".toList := by
    decide +kernel
  have ascii : ∀ c ∈ "HTTP://ADS.X/BANNER?".toList, c.toNat < 0x80 := by
    simp
  refine ⟨found, matched, ?_⟩
  rw [← lowered]
  refine
    keyword_infix_of_matchesRequest matched (Or.inr (Or.inr ascii))
      "banner".toList ?_
  rw [found]
  exact List.mem_cons_of_mem _ List.mem_cons_self

/-- Beyond ASCII the expression of a pattern finds letters that are not those of its keyword. -/
example :
    keywords "*.ask.".toList = ["ask".toList] ∧
      (ofText "*.ask.".toList false).matchesRequest
          ⟨".aſk.".toList, none⟩ = true ∧
      Request.locationLower ⟨".aſk.".toList, none⟩ = ".aſk.".toList := by
  decide +kernel

end Pattern

end AdFilter
