import AdFilter.Proofs.UrlRuleForm

namespace AdFilter

/-!
# Exceptions that mirror rules

Two `@` in front of the text of a blocking rule make an exception from it.  Nothing else changes: the pattern and the
options are cut out of the same text, an exception is checked for fewer faults than a blocking rule, and no check
changes what the options set.  A blocking rule can therefore always be taken back, for exactly the requests it blocks.
-/

variable {strict : Bool} {text pattern : Text} {draft : OptionDraft} {setting : Setting} {rule : UrlRule}

/-! ## Fewer faults -/

/-- A setting that a blocking rule may have is one that an exception may have. -/
theorem Setting.fault?_allowing_of_blocking
    (accepted : setting.fault? true strict = none) :
    setting.fault? false strict = none := by
  cases setting with
  | csp policy =>
      rfl
  | header condition =>
      rfl
  | _ =>
      exact accepted

/-- Options that a blocking rule may combine are ones that an exception may combine. -/
theorem RuleOptions.combinationFault?_allowing_of_blocking
    (accepted : combinationFault? true pattern draft = none) :
    combinationFault? false pattern draft = none := by
  unfold combinationFault? at accepted ⊢
  split at accepted
  · cases accepted
  · rename_i specific
    rw [if_neg specific]
    split at accepted
    · cases accepted
    · rename_i ascii
      rw [if_neg ascii]
      simp

theorem RuleOptions.fault?_allowing_of_blocking
    {settings : List Setting}
    (accepted : fault? strict true pattern settings = none) :
    fault? strict false pattern settings = none := by
  obtain ⟨single, combined⟩ := fault?_eq_none_iff.mp accepted
  rw [fault?_eq_none_iff]
  exact
    ⟨fun setting member =>
        Setting.fault?_allowing_of_blocking (single setting member),
      combinationFault?_allowing_of_blocking combined⟩

/-! ## The same text -/

/-- The text of a blocking rule has no mark in front that is left out. -/
theorem RuleOptions.rest_eq_of_blocking
    {rest : Text}
    (start : blockingAndRest text = (true, rest)) :
    rest = text := by
  unfold blockingAndRest at start
  split at start
  · cases start
  · exact (Prod.mk.inj start).2.symm

/-- A text with two `@` in front is no comment and no rule on contents. -/
theorem UrlRule.isCandidate_exception
    (text : Text) :
    IsCandidate (['@', '@'] ++ text) where
  notEmpty := nofun
  noComment := by
    simp
  noContent := rfl

/--
Two `@` in front of the text of a blocking rule make an exception, under the same policy, that has all else from the
blocking rule and matches the same requests.
-/
theorem UrlRule.parse_exception_of_parse_blocking
    (parsed : Rule.parse strict text = .ok (.url rule))
    (blocks : rule.action = .block) :
    ∃ exception : UrlRule,
      Rule.parse strict (['@', '@'] ++ text) = .ok (.url exception) ∧
        exception =
          { rule with text := ['@', '@'] ++ text, action := .allow } ∧
        ∀ request types sitekey,
          exception.matchesRequest request types sitekey =
            rule.matchesRequest request types sitekey := by
  obtain ⟨blocking, rest, pattern, options, start, cut, noFault, rfl⟩ :=
    Rule.exists_options_of_parse parsed
  have isBlocking : blocking = true := by
    cases blocking with
    | true =>
        rfl
    | false =>
        cases blocks
  subst isBlocking
  obtain rfl := RuleOptions.rest_eq_of_blocking start
  have accepted :
      RuleOptions.parse strict (['@', '@'] ++ rest) =
        .ok (RuleOptions.ofDraft false pattern
          (OptionDraft.ofSettings (options.map Setting.ofOption))) :=
    RuleOptions.parse_eq_ok_iff.mpr
      ⟨false, rest, pattern, options, rfl, cut,
        RuleOptions.fault?_allowing_of_blocking noFault, rfl⟩
  have read :
      ofText strict (['@', '@'] ++ rest) =
        .ok (ofOptions (['@', '@'] ++ rest)
          (RuleOptions.ofDraft false pattern
            (OptionDraft.ofSettings (options.map Setting.ofOption)))) :=
    ofText_eq_ok_iff.mpr ⟨_, accepted, rfl⟩
  have candidate := isCandidate_exception rest
  exact
    ⟨_, Rule.parse_eq_ok_url_iff.mpr ⟨candidate, read⟩, rfl,
      fun _ _ _ => rfl⟩

/-- An exception mirrors a rule whose injected policy and rewrite had to be checked. -/
theorem UrlRule.parse_exception_of_parse_blocking_checked :
    ∃ rule exception : UrlRule,
      Rule.parse true "||ab^$csp=a,~3p,rewrite=abp-resource:b".toList =
          .ok (.url rule) ∧
        rule.action = .block ∧
        Rule.parse true "@@||ab^$csp=a,~3p,rewrite=abp-resource:b".toList =
          .ok (.url exception) ∧
        exception.action = .allow ∧
        exception.rewrite = "b".toList ∧
        exception.thirdParty = some false ∧
        ∀ request types sitekey,
          exception.matchesRequest request types sitekey =
            rule.matchesRequest request types sitekey := by
  have parsed :
      Rule.parse true "||ab^$csp=a,~3p,rewrite=abp-resource:b".toList =
        .ok (.url (UrlRule.ofOptions
          "||ab^$csp=a,~3p,rewrite=abp-resource:b".toList
          ⟨true, "||ab^".toList, ⟨0x2FFFFFF⟩, false, [], some false,
            [], "a".toList, [], "b".toList⟩)) := by
    decide +kernel
  obtain ⟨exception, parsedException, rfl, same⟩ :=
    UrlRule.parse_exception_of_parse_blocking parsed rfl
  exact ⟨_, _, parsed, rfl, parsedException, rfl, rfl, rfl, same⟩

end AdFilter
