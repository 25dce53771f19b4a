import AdFilter.Proofs.ListBuckets

namespace AdFilter

/-!
# Lists that are read together

Several lists are read one after the other through one cache, and their rules are put together place by place.  The
result is that of a single list: the texts joined with a line feed between any two.  A join may cut off an empty line
or complete the end of a line, and neither makes or loses a rule.
-/

namespace Text

/-! ## Lines across a join -/

theorem lines_cons_of_isLineEnd
    {c : Char}
    {rest : Text}
    (isEnd : isLineEnd c = true)
    (noPair : c = '\r' → rest.head? ≠ some '\n') :
    lines (c :: rest) = [] :: lines rest := by
  rw [lines, if_pos isEnd]
  rintro others isReturn rfl
  exact noPair isReturn rfl

theorem lines_cons_of_not_isLineEnd
    {c : Char}
    {rest : Text}
    (inside : isLineEnd c = false) :
    lines (c :: rest) =
      (c :: (lines rest).headD []) :: (lines rest).tail := by
  rw [lines]
  · simp only [inside, Bool.false_eq_true, if_false]
    cases lines rest <;> rfl
  · rintro others rfl _
    exact absurd inside (by decide)

theorem eq_nil_of_lines_eq_nil
    {text : Text}
    (noLines : lines text = []) :
    text = [] := by
  unfold lines at noLines
  split at noLines
  · rfl
  · cases noLines
  · split at noLines
    · cases noLines
    · split at noLines <;> cases noLines

/-- Two texts with a line feed between them have the lines of both, perhaps with an empty one in between. -/
theorem exists_lines_append_lineFeed
    (first second : Text) :
    ∃ blanks : List Text,
      (∀ line ∈ blanks, line = []) ∧
        lines (first ++ '\n' :: second) =
          lines first ++ (blanks ++ lines second) := by
  have lineFeedFirst :
      lines ('\n' :: second) = [] :: lines second :=
    lines_cons_of_isLineEnd (by decide)
      fun isReturn => absurd isReturn (by decide)
  -- On the first text, in the cases in which it is cut into lines.
  fun_induction lines first with
  | case1 =>
      exact ⟨[[]], by simp, by simpa using lineFeedFirst⟩
  | case2 rest inductionHypothesis =>
      obtain ⟨blanks, areBlank, shape⟩ := inductionHypothesis
      refine ⟨blanks, areBlank, ?_⟩
      simp only [List.cons_append, lines, shape]
  | case3 c rest noPair isEnd inductionHypothesis =>
      by_cases completed : c = '\r' ∧ rest = []
      · -- The line feed joins the carriage return that ends the first text.
        obtain ⟨rfl, rfl⟩ := completed
        exact ⟨[], by simp, by simp [lines]⟩
      · obtain ⟨blanks, areBlank, shape⟩ := inductionHypothesis
        refine ⟨blanks, areBlank, ?_⟩
        have stillNoPair :
            c = '\r' → (rest ++ '\n' :: second).head? ≠ some '\n' := by
          intro isReturn
          cases rest with
          | nil =>
              exact absurd ⟨isReturn, rfl⟩ completed
          | cons next others =>
              intro isLineFeed
              obtain rfl := Option.some.inj isLineFeed
              exact noPair others isReturn rfl
        rw [List.cons_append, lines_cons_of_isLineEnd isEnd stillNoPair, shape]
        rfl
  | case4 c rest noPair noEnd noLines inductionHypothesis =>
      obtain rfl := eq_nil_of_lines_eq_nil noLines
      refine ⟨[], by simp, ?_⟩
      rw [List.singleton_append,
        lines_cons_of_not_isLineEnd (Bool.eq_false_iff.mpr noEnd), lineFeedFirst]
      rfl
  | case5 c rest noPair noEnd line others someLines inductionHypothesis =>
      obtain ⟨blanks, areBlank, shape⟩ := inductionHypothesis
      refine ⟨blanks, areBlank, ?_⟩
      rw [List.cons_append,
        lines_cons_of_not_isLineEnd (Bool.eq_false_iff.mpr noEnd), shape,
        someLines]
      rfl

end Text

namespace RuleList

/-- The rules of two texts with a line feed between them are those of both. -/
theorem ruleTexts_append_lineFeed
    (first second : Text) :
    ruleTexts (first ++ '\n' :: second) =
      ruleTexts first ++ ruleTexts second := by
  obtain ⟨blanks, areBlank, shape⟩ :=
    Text.exists_lines_append_lineFeed first second
  have noRules :
      (blanks.map Text.strip).filter
        (fun line => line ≠ [] && !isHeader line) = [] := by
    refine List.filter_eq_nil_iff.mpr ?_
    intro stripped member
    obtain ⟨line, isBlank, rfl⟩ := List.mem_map.mp member
    rw [areBlank line isBlank]
    decide
  simp only [ruleTexts, shape, List.map_append, List.filter_append, noRules,
    List.nil_append]

/-- The rules of joined texts are those of the texts, one after the other. -/
theorem ruleTexts_intercalate
    (contents : List Text) :
    ruleTexts (List.intercalate ['\n'] contents) =
      contents.flatMap ruleTexts := by
  induction contents with
  | nil =>
      rfl
  | cons first others inductionHypothesis =>
      cases others with
      | nil =>
          rw [List.intercalate_singleton, List.flatMap_singleton]
      | cons second others =>
          rw [List.intercalate_cons_cons, List.append_assoc,
            List.singleton_append, ruleTexts_append_lineFeed,
            inductionHypothesis]
          rfl

/-! ## Lists put together -/

theorem append_empty
    (list : RuleList) :
    list.append empty = list := by
  simp [append, empty]

/-- A rule is added to two lists that are put together as it is to the second one. -/
theorem add_append
    (first second : RuleList)
    (rule : Rule) :
    (first.append second).add rule = first.append (second.add rule) := by
  cases rule with
  | comment text =>
      simp [add, append]
  | invalid rejection =>
      simp [add, append]
  | url urlRule =>
      cases action : urlRule.action <;> simp [add, append, action]
  | content contentRule =>
      by_cases tooBroad : contentRule.action = .tooBroad <;>
        simp [add, append, tooBroad]

theorem foldl_add_append
    (first second : RuleList)
    (rules : List Rule) :
    rules.foldl add (first.append second) =
      first.append (rules.foldl add second) := by
  induction rules generalizing second with
  | nil =>
      rfl
  | cons rule others inductionHypothesis =>
      rw [List.foldl_cons, add_append, inductionHypothesis, List.foldl_cons]

/-- The list of rules and more rules is that of both lists put together. -/
theorem ofRules_append
    (first second : List Rule) :
    ofRules (first ++ second) =
      (ofRules first).append (ofRules second) := by
  have fromEmpty := foldl_add_append (ofRules first) empty second
  rw [append_empty] at fromEmpty
  rw [ofRules, List.foldl_append]
  exact fromEmpty

/-- Lists that are read one after the other through a faithful cache hold what their lines are read as without it. -/
theorem parseAllWith_eq
    {strict : Bool}
    {cache : RuleCache}
    (faithful : RuleCache.Faithful strict cache)
    (contents : List Text) :
    (parseAllWith cache strict contents).1 =
      ofRules ((contents.flatMap ruleTexts).map (Rule.readLine strict)) := by
  induction contents generalizing cache with
  | nil =>
      rfl
  | cons content others inductionHypothesis =>
      obtain ⟨sameFirst, stillFaithful⟩ := faithful.parseWith content
      have sameOthers := inductionHypothesis stillFaithful
      rw [List.flatMap_cons, List.map_append, ofRules_append, ← sameFirst,
        ← sameOthers]
      rfl

/--
Whatever the configuration, lists read together hold the same rules at the same places and in the same order as the
single list that their texts make up, joined with line feeds.  Without a configuration, the standard one is used.
-/
theorem parseAll_eq_parse_intercalate
    {given : Option Configuration}
    (isSize : ∀ config ∈ given, RuleCache.IsSize config.cacheSize)
    (override : Option Text)
    (lists : TextMap Text) :
    ∃ list,
      parseAll (given.getD .standard) override lists = .ok list ∧
        parse (given.getD .standard) override
            (List.intercalate ['\n'] (lists.entries.map Prod.snd)) =
          .ok list := by
  have isSizeUsed : RuleCache.IsSize (given.getD .standard).cacheSize := by
    cases given with
    | none =>
        exact .unlimited
    | some config =>
        exact isSize config rfl
  refine ⟨_, ?_, parse_eq_ok isSizeUsed override _⟩
  obtain ⟨limit, cache⟩ := RuleCache.exists_ofSize_eq_ok isSizeUsed
  rw [ruleTexts_intercalate, parseAll, cache]
  exact congrArg Except.ok
    (parseAllWith_eq (RuleCache.faithful_empty limit) _)

/-- A carriage return at the end of a list and an empty list are no lines of their own when lists are read together. -/
theorem parseAll_after_return :
    parseAll ⟨.reject, .integer 1⟩ none
        ⟨[("a".toList, "!x\r".toList), ("b".toList, []),
          ("c".toList, "!x\nx$y".toList)]⟩ =
      .ok
        ⟨[], [], [], ["!x".toList, "!x".toList],
          [.invalid ⟨.unknownOption, "x$y".toList⟩]⟩ := by
  have isSize :
      ∀ config ∈ some (⟨.reject, .integer 1⟩ : Configuration),
        RuleCache.IsSize config.cacheSize := by
    intro config given
    obtain rfl := Option.some.inj given
    exact .number (by decide)
  obtain ⟨list, together, joined⟩ :=
    parseAll_eq_parse_intercalate isSize none
      ⟨[("a".toList, "!x\r".toList), ("b".toList, []),
        ("c".toList, "!x\nx$y".toList)]⟩
  have read :
      parse ⟨.reject, .integer 1⟩ none "!x\r\n\n!x\nx$y".toList =
        .ok
          ⟨[], [], [], ["!x".toList, "!x".toList],
            [.invalid ⟨.unknownOption, "x$y".toList⟩]⟩ :=
    rfl
  exact together.trans (joined.symm.trans read)

end RuleList

end AdFilter
