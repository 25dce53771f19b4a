import AdFilter.Proofs.UrlRuleForm

namespace AdFilter

/-!
# Rules for one party

An option may restrict a rule to requests between sites, or to requests within a site.  A rule with neither option is
the two restricted rules together: where the document is known, exactly one of them matches a request that the rule
matches, and where it is not known the option makes no difference.
-/

namespace Setting

/-- The keys of the options that restrict a rule to a party. -/
def partyKeys : List Text :=
  ["third-party".toList, "3p".toList, "first-party".toList, "1p".toList]

/-- An option restricts a rule to a party: it has one of these keys, in any letter case and perhaps after a tilde. -/
def NamesParty (option : Text) : Prop :=
  Text.lower (OptionClause.withoutTilde (keyAndValue option).1) ∈ partyKeys

instance (option : Text) : Decidable (NamesParty option) :=
  inferInstanceAs (Decidable (_ ∈ partyKeys))

/-- A setting that does not restrict a rule to a party. -/
def IsNotParty (setting : Setting) : Prop :=
  ∀ value, setting ≠ .thirdParty value

theorem isNotParty_ofContentType
    (negated : Bool)
    (contentType : ContentType)
    (value : Text) :
    (ofContentType negated contentType value).IsNotParty := by
  intro third
  unfold ofContentType
  split
  · nofun
  · split <;> nofun

theorem isNotParty_ofOtherKey
    {negated : Bool}
    {key value : Text}
    (otherKey : key ∉ partyKeys) :
    (ofOtherKey negated key value).IsNotParty := by
  simp only [partyKeys, List.mem_cons, List.not_mem_nil, or_false,
    not_or] at otherKey
  obtain ⟨notThird, notThirdShort, notFirst, notFirstShort⟩ := otherKey
  intro third
  unfold ofOtherKey
  rw [if_neg (not_or.mpr ⟨notThird, notThirdShort⟩),
    if_neg (not_or.mpr ⟨notFirst, notFirstShort⟩)]
  repeat' split
  all_goals nofun

/-- An option without such a key does not restrict a rule to a party. -/
theorem isNotParty_ofOption
    {option : Text}
    (noParty : ¬ NamesParty option) :
    (ofOption option).IsNotParty := by
  unfold ofOption
  dsimp only
  split
  · exact isNotParty_ofContentType _ _ _
  · exact isNotParty_ofOtherKey noParty

end Setting

namespace OptionDraft

theorem thirdParty_set_of_isNotParty
    (draft : OptionDraft)
    {setting : Setting}
    (noParty : setting.IsNotParty) :
    (draft.set setting).thirdParty = draft.thirdParty := by
  cases setting with
  | thirdParty value =>
      exact absurd rfl (noParty value)
  | _ =>
      rfl

/-- Settings of which none restricts a rule to a party leave it unrestricted. -/
theorem thirdParty_ofSettings_eq_none
    {settings : List Setting}
    (noParty : ∀ setting ∈ settings, setting.IsNotParty) :
    (ofSettings settings).thirdParty = none := by
  induction settings using List.reverseRecOn with
  | nil =>
      rfl
  | append_singleton earlier last inductionHypothesis =>
      rw [ofSettings_concat,
        thirdParty_set_of_isNotParty _ (noParty last (by simp))]
      exact inductionHypothesis
        fun setting member => noParty setting (by simp [member])

end OptionDraft

namespace UrlRule

variable {strict : Bool} {pattern : Text} {options : List Text} {base third first rule restricted : UrlRule}

/-- What a pattern and well-formed options make up, if they are accepted. -/
theorem eq_ofOptions_of_parse_written
    (noDollar : '$' ∉ pattern)
    (wellFormed : ∀ option ∈ options, OptionClause.WellFormed option)
    (read :
      UrlRule.parse strict (OptionClause.written pattern options) =
        .ok rule) :
    rule =
      ofOptions (OptionClause.written pattern options)
        (RuleOptions.ofDraft (RuleOptions.blockingAndRest pattern).1
          (RuleOptions.blockingAndRest pattern).2
          (OptionDraft.ofSettings (options.map Setting.ofOption))) := by
  obtain ⟨_, readText⟩ := Rule.parse_eq_ok_url_iff.mp (parse_eq_ok_iff.mp read)
  obtain ⟨made, accepted, rfl⟩ := ofText_eq_ok_iff.mp readText
  rw [((RuleOptions.parse_written_eq_ok_iff noDollar wellFormed).mp accepted).2]

/-- One rule is another one, apart from its text and from a restriction to a party. -/
structure RestrictsParty (rule : UrlRule) (third : Bool) (restricted : UrlRule) : Prop where
  unrestricted : rule.thirdParty = none
  shape :
    restricted =
      { rule with text := restricted.text, thirdParty := some third }

/-- An option for a party after others restricts the rule, and changes nothing else. -/
theorem restrictsParty_of_parse_written
    {party : Text}
    {value : Bool}
    (noDollar : '$' ∉ pattern)
    (wellFormed : ∀ option ∈ options, OptionClause.WellFormed option)
    (noParty : ∀ option ∈ options, ¬ Setting.NamesParty option)
    (partyWellFormed : OptionClause.WellFormed party)
    (isParty : Setting.ofOption party = .thirdParty value)
    (readBase :
      UrlRule.parse strict (OptionClause.written pattern options) =
        .ok base)
    (readRestricted :
      UrlRule.parse strict
          (OptionClause.written pattern (options ++ [party])) =
        .ok restricted) :
    RestrictsParty base value restricted := by
  have allWellFormed :
      ∀ option ∈ options ++ [party], OptionClause.WellFormed option := by
    intro option member
    rcases List.mem_append.mp member with isEarlier | isLast
    · exact wellFormed option isEarlier
    · rw [List.mem_singleton.mp isLast]
      exact partyWellFormed
  have restrictedShape :=
    eq_ofOptions_of_parse_written noDollar allWellFormed readRestricted
  have draftShape :
      OptionDraft.ofSettings ((options ++ [party]).map Setting.ofOption) =
        (OptionDraft.ofSettings (options.map Setting.ofOption)).set
          (.thirdParty value) := by
    rw [List.map_append, List.map_singleton, isParty,
      OptionDraft.ofSettings_concat]
  obtain rfl := eq_ofOptions_of_parse_written noDollar wellFormed readBase
  rw [draftShape] at restrictedShape
  refine ⟨?_, ?_⟩
  · refine OptionDraft.thirdParty_ofSettings_eq_none ?_
    intro setting member
    obtain ⟨option, isOption, rfl⟩ := List.mem_map.mp member
    exact Setting.isNotParty_ofOption (noParty option isOption)
  · rw [restrictedShape]
    rfl

/-- A restricted rule matches what the rule matches, if it applies to the party. -/
theorem RestrictsParty.matchesRequest_eq
    {value : Bool}
    (restricts : RestrictsParty rule value restricted)
    (request : Request)
    (types : TypeMask)
    (sitekey : Option Text) :
    restricted.matchesRequest request types sitekey =
      (rule.matchesRequest request types sitekey &&
        restricted.appliesToParty request) := by
  have anyParty : rule.appliesToParty request = true := by
    rw [appliesToParty, restricts.unrestricted]
  rw [restricts.shape]
  change
    (rule.appliesToTypes types &&
        (rule.restriction.isActive request.documentDomain sitekey &&
          (_ && rule.pattern.matchesRequest request))) =
      _
  rw [matchesRequest, anyParty, Bool.true_and]
  ac_rfl

/--
The rules that an option for either party makes of one without such an option: where the document of a request is
known, never both match it, and one of them does exactly if the rule without the option does; where it is not known, all
three agree.
-/
theorem matchesRequest_parties
    (noDollar : '$' ∉ pattern)
    (wellFormed : ∀ option ∈ options, OptionClause.WellFormed option)
    (noParty : ∀ option ∈ options, ¬ Setting.NamesParty option)
    (readBase :
      UrlRule.parse strict (OptionClause.written pattern options) =
        .ok base)
    (readThird :
      UrlRule.parse strict
          (OptionClause.written pattern
            (options ++ ["third-party".toList])) =
        .ok third)
    (readFirst :
      UrlRule.parse strict
          (OptionClause.written pattern
            (options ++ ["~third-party".toList])) =
        .ok first)
    (request : Request)
    (types : TypeMask)
    (sitekey : Option Text) :
    (∀ domain, request.documentDomain = some domain →
      ¬ (third.matchesRequest request types sitekey = true ∧
          first.matchesRequest request types sitekey = true) ∧
        (base.matchesRequest request types sitekey = true ↔
          third.matchesRequest request types sitekey = true ∨
            first.matchesRequest request types sitekey = true)) ∧
      (request.documentDomain = none →
        third.matchesRequest request types sitekey =
            base.matchesRequest request types sitekey ∧
          first.matchesRequest request types sitekey =
            base.matchesRequest request types sitekey) := by
  have isKey : OptionClause.IsKey "third-party".toList :=
    ⟨by decide, List.all_eq_true.mp (by decide)⟩
  have restrictsThird : RestrictsParty base true third :=
    restrictsParty_of_parse_written noDollar wellFormed noParty
      (.plain isKey .nothing) (by decide +kernel) readBase readThird
  have restrictsFirst : RestrictsParty base false first :=
    restrictsParty_of_parse_written noDollar wellFormed noParty
      (.negated isKey .nothing) (by decide +kernel) readBase readFirst
  rw [restrictsThird.matchesRequest_eq, restrictsFirst.matchesRequest_eq,
    appliesToParty, appliesToParty, restrictsThird.shape,
    restrictsFirst.shape]
  refine ⟨?_, ?_⟩
  · intro domain known
    rw [known]
    cases base.matchesRequest request types sitekey <;>
      cases Url.isThirdParty request.location domain <;> simp
  · intro unknown
    rw [unknown]
    simp

/-- A request from another site is matched by the rule for third parties among two options with values. -/
theorem matchesRequest_parties_third :
    ∃ base third first : UrlRule,
      UrlRule.parse true "@@ab$domain=c|D.e,Image".toList = .ok base ∧
        UrlRule.parse true "@@ab$domain=c|D.e,Image,third-party".toList =
          .ok third ∧
        UrlRule.parse true "@@ab$domain=c|D.e,Image,~third-party".toList =
          .ok first ∧
        third.matchesRequest ⟨"http://f/ab".toList, some "x.d.E".toList⟩
            (.ofType .image) none = true ∧
        first.matchesRequest ⟨"http://f/ab".toList, some "x.d.E".toList⟩
            (.ofType .image) none ≠ true := by
  have readBase :
      UrlRule.parse true
          (OptionClause.written "@@ab".toList
            ["domain=c|D.e".toList, "Image".toList]) =
        .ok (ofOptions "@@ab$domain=c|D.e,Image".toList
          ⟨false, "ab".toList, ⟨4⟩, false, "c|D.e".toList, none,
            [], [], [], []⟩) := by
    decide +kernel
  have readThird :
      UrlRule.parse true
          (OptionClause.written "@@ab".toList
            (["domain=c|D.e".toList, "Image".toList] ++
              ["third-party".toList])) =
        .ok (ofOptions "@@ab$domain=c|D.e,Image,third-party".toList
          ⟨false, "ab".toList, ⟨4⟩, false, "c|D.e".toList, some true,
            [], [], [], []⟩) := by
    decide +kernel
  have readFirst :
      UrlRule.parse true
          (OptionClause.written "@@ab".toList
            (["domain=c|D.e".toList, "Image".toList] ++
              ["~third-party".toList])) =
        .ok (ofOptions "@@ab$domain=c|D.e,Image,~third-party".toList
          ⟨false, "ab".toList, ⟨4⟩, false, "c|D.e".toList, some false,
            [], [], [], []⟩) := by
    decide +kernel
  obtain ⟨notBoth, _⟩ :=
    (matchesRequest_parties (by decide) (by decide +kernel)
      (by decide +kernel) readBase readThird readFirst
      ⟨"http://f/ab".toList, some "x.d.E".toList⟩ (.ofType .image)
      none).1 "x.d.E".toList rfl
  have thirdMatches :
      (ofOptions "@@ab$domain=c|D.e,Image,third-party".toList
          ⟨false, "ab".toList, ⟨4⟩, false, "c|D.e".toList, some true,
            [], [], [], []⟩).matchesRequest
        ⟨"http://f/ab".toList, some "x.d.E".toList⟩
          (.ofType .image) none = true := by
    decide +kernel
  exact
    ⟨_, _, _, readBase, readThird, readFirst, thirdMatches,
      fun firstMatches => notBoth ⟨thirdMatches, firstMatches⟩⟩

end UrlRule

end AdFilter
