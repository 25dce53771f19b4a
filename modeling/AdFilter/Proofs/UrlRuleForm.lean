import AdFilter.Proofs.DomainMaps
import AdFilter.Proofs.OptionClauses
import AdFilter.Proofs.OptionSettings
import AdFilter.Proofs.TextForms

namespace AdFilter

/-!
# The form of rules on addresses

A rule on addresses that is read from a text has a form that later code relies on.  Some of it is checked option by
option, some only when all options are known, and some follows from the way the parts are put together.
-/

/-- What holds of every rule on addresses that is read from a text. -/
structure UrlRule.WellFormed (text : Text) (rule : UrlRule) : Prop where
  text_eq : rule.text = text
  allow_iff : rule.action = .allow ↔ ['@', '@'] <+: text
  domains_iff : rule.domains.isEmpty = false ↔ rule.domainSource ≠ []
  domainSource_ascii : ∀ c ∈ rule.domainSource, c.toNat < 0x80
  domains_keys : ∀ key ∈ rule.domains.keys, DomainMap.IsKey '|' key
  csp_of_block :
    rule.action = .block →
      (rule.contentTypes.HasBit ContentType.csp.bit ↔ rule.csp ≠ [])
  header_of_block :
    rule.action = .block →
      (rule.contentTypes.HasBit ContentType.header.bit ↔ rule.header ≠ [])
  csp_of_allow :
    rule.action = .allow →
      rule.csp ≠ [] → rule.contentTypes.HasBit ContentType.csp.bit
  header_of_allow :
    rule.action = .allow →
      rule.header ≠ [] → rule.contentTypes.HasBit ContentType.header.bit
  rewrite_of_block :
    rule.action = .block →
      rule.rewrite ≠ [] →
        (['|', '|'] <+: rule.pattern.text ∧
            (rule.domains.isEmpty = false ∨ rule.thirdParty ≠ some true)) ∨
          (['*'] <+: rule.pattern.text ∧ rule.domains.isEmpty = false)
  specific :
    rule.domains.isEmpty = false →
      rule.sitekeys ≠ none →
        '*' ∈ rule.pattern.text ∨
          (4 ≤ rule.pattern.text.length ∧
            (['|'] <+: rule.pattern.text → 5 ≤ rule.pattern.text.length) ∧
            (['|', '|'] <+: rule.pattern.text →
              6 ≤ rule.pattern.text.length))
  bits_lt : rule.contentTypes.bits < 2 ^ 31

variable {strict blocking : Bool} {text rest pattern : Text} {draft : OptionDraft} {rule : UrlRule}

/-! ## What is accepted -/

theorem UrlRule.ofText_eq_ok_iff :
    ofText strict text = .ok rule ↔
      ∃ options,
        RuleOptions.parse strict text = .ok options ∧
          rule = ofOptions text options := by
  unfold ofText
  cases RuleOptions.parse strict text with
  | error rejection =>
      simp
  | ok options =>
      simp [eq_comm]

/-- A text is read as a rule on addresses exactly if it can only be one and its options are accepted. -/
theorem Rule.parse_eq_ok_url_iff :
    Rule.parse strict text = .ok (.url rule) ↔
      UrlRule.IsCandidate text ∧ UrlRule.ofText strict text = .ok rule := by
  constructor
  · intro parsed
    cases textForm text with
    | empty isEmpty =>
        rw [parse_of_empty isEmpty] at parsed
        cases parsed
    | comment begins =>
        rw [parse_of_comment begins] at parsed
        cases parsed
    | content found =>
        rw [parse_of_content found] at parsed
        cases parsed
    | address candidate =>
        obtain ⟨_, read, isUrl⟩ := exists_url_of_parse candidate parsed
        cases isUrl
        exact ⟨candidate, read⟩
  · rintro ⟨candidate, read⟩
    rw [parse_of_address candidate, read]
    rfl

/-- Reading a text as a rule on addresses gives what reading it as a rule of any kind gives, where that is one. -/
theorem UrlRule.parse_eq_ok_iff :
    parse strict text = .ok rule ↔ Rule.parse strict text = .ok (.url rule) := by
  rw [Rule.parse_eq_ok_url_iff]
  cases textForm text with
  | empty isEmpty =>
      rw [parse_of_empty isEmpty]
      exact iff_of_false nofun fun both => both.1.notEmpty isEmpty
  | comment begins =>
      rw [parse_of_comment begins]
      exact iff_of_false nofun fun both => both.1.noComment begins
  | content found =>
      rw [parse_of_content found]
      refine iff_of_false nofun fun both => ?_
      rw [both.1.noContent] at found
      cases found
  | address candidate =>
      rw [parse_of_address candidate]
      exact ⟨fun read => ⟨candidate, read⟩, fun both => both.2⟩

/-- A rule on addresses is made of a pattern and of options that have no fault. -/
theorem Rule.exists_options_of_parse
    (parsed : Rule.parse strict text = .ok (.url rule)) :
    ∃ blocking rest pattern options,
      RuleOptions.blockingAndRest text = (blocking, rest) ∧
        OptionClause.split rest = (pattern, options) ∧
        RuleOptions.fault? strict blocking pattern
          (options.map Setting.ofOption) = none ∧
        rule =
          UrlRule.ofOptions text
            (RuleOptions.ofDraft blocking pattern
              (OptionDraft.ofSettings (options.map Setting.ofOption))) := by
  obtain ⟨_, read⟩ := Rule.parse_eq_ok_url_iff.mp parsed
  obtain ⟨_, accepted, rfl⟩ := UrlRule.ofText_eq_ok_iff.mp read
  obtain ⟨blocking, rest, pattern, options, start, cut, noFault, rfl⟩ :=
    RuleOptions.parse_eq_ok_iff.mp accepted
  exact ⟨blocking, rest, pattern, options, start, cut, noFault, rfl⟩

/-- A text is that of an exception exactly if it begins with two `@`. -/
theorem RuleOptions.blocking_eq_false_iff
    (start : blockingAndRest text = (blocking, rest)) :
    blocking = false ↔ ['@', '@'] <+: text := by
  by_cases mark : ['@', '@'] <+: text
  · obtain ⟨others, rfl⟩ := mark
    obtain ⟨rfl, rfl⟩ := Prod.mk.inj start
    simp
  · rw [blockingAndRest_of_noMark mark] at start
    obtain ⟨rfl, rfl⟩ := Prod.mk.inj start
    exact iff_of_false nofun mark

/-- What is accepted has settings without faults, and neither has their combination one. -/
theorem RuleOptions.fault?_eq_none_iff
    {settings : List Setting} :
    fault? strict blocking pattern settings = none ↔
      (∀ setting ∈ settings, setting.fault? blocking strict = none) ∧
        combinationFault? blocking pattern
          (OptionDraft.ofSettings settings) = none := by
  rw [fault?]
  split
  · rename_i reason found
    constructor
    · intro isNone
      cases isNone
    · intro both
      rw [List.findSome?_eq_none_iff.mpr both.1] at found
      cases found
  · rename_i noFault
    rw [List.findSome?_eq_none_iff] at noFault
    exact ⟨fun rest => ⟨noFault, rest⟩, fun both => both.2⟩

/-- Options without faults make up a sound draft. -/
theorem RuleOptions.sound_of_fault?_eq_none
    {options : List Text}
    (noFault :
      fault? strict blocking pattern (options.map Setting.ofOption) = none) :
    OptionDraft.Sound blocking
      (OptionDraft.ofSettings (options.map Setting.ofOption)) := by
  have accepted := (fault?_eq_none_iff.mp noFault).1
  refine OptionDraft.sound_ofSettings ?_ accepted
  intro setting member
  obtain ⟨option, _, rfl⟩ := List.mem_map.mp member
  exact Setting.addsNoInjection_ofOption option

/-- What a combination of options without faults satisfies. -/
theorem RuleOptions.of_combinationFault?_eq_none
    (noFault : combinationFault? blocking pattern draft = none) :
    (draft.domains ≠ [] → draft.sitekeys ≠ [] →
        isSpecificEnough pattern = true) ∧
      isAscii draft.domains = true ∧
      (blocking = true → draft.rewrite ≠ [] →
        mayRewrite pattern draft = true) := by
  unfold combinationFault? at noFault
  split at noFault
  · cases noFault
  · rename_i specific
    split at noFault
    · cases noFault
    · rename_i ascii
      split at noFault
      · cases noFault
      · split at noFault
        · cases noFault
        · rename_i rewrites
          refine ⟨?_, ?_, ?_⟩
          · intro someDomain someKey
            by_contra notSpecific
            exact specific
              ⟨someDomain, someKey, Bool.eq_false_iff.mpr notSpecific⟩
          · by_contra notAscii
            exact ascii (Bool.eq_false_iff.mpr notAscii)
          · intro blocks someRewrite
            by_contra refused
            exact rewrites
              ⟨blocks, someRewrite, Bool.eq_false_iff.mpr refused⟩

/-- A pattern that may rewrite is tied to a domain, or the rule is. -/
theorem RuleOptions.of_mayRewrite
    (allowed : mayRewrite pattern draft = true) :
    (['|', '|'] <+: pattern ∧
        (draft.domains ≠ [] ∨ draft.thirdParty ≠ some true)) ∨
      (['*'] <+: pattern ∧ draft.domains ≠ []) := by
  unfold mayRewrite at allowed
  split at allowed
  · left
    refine ⟨⟨_, rfl⟩, ?_⟩
    simpa using allowed
  · right
    refine ⟨⟨_, rfl⟩, ?_⟩
    simpa using allowed
  · cases allowed

/-- A pattern that is specific enough has a wildcard, or four characters after the bars in front. -/
theorem RuleOptions.of_isSpecificEnough
    (specific : isSpecificEnough pattern = true) :
    '*' ∈ pattern ∨
      (4 ≤ pattern.length ∧
        (['|'] <+: pattern → 5 ≤ pattern.length) ∧
        (['|', '|'] <+: pattern → 6 ≤ pattern.length)) := by
  rw [isSpecificEnough, Bool.or_eq_true, decide_eq_true_eq,
    leastPatternLength] at specific
  rcases specific with long | wildcard
  · right
    unfold leadingBars at long
    split at long
    · exact ⟨by omega, fun _ => by omega, fun _ => long⟩
    · rename_i single
      refine ⟨by omega, fun _ => long, ?_⟩
      intro begins
      obtain ⟨others, shape⟩ := begins
      cases shape
      exact absurd rfl (single others)
    · rename_i noBar
      refine ⟨long, ?_, ?_⟩
      · intro begins
        obtain ⟨others, shape⟩ := begins
        cases shape
        exact absurd rfl (noBar others)
      · intro begins
        obtain ⟨others, shape⟩ := begins
        cases shape
        exact absurd rfl (noBar ('|' :: others))
  · left
    exact List.elem_iff.mp wildcard

/-! ## What follows for a rule -/

/-- A source without domains makes a map without domains, and one that is accepted makes one with some. -/
theorem OptionDraft.Sound.domains_iff
    (sound : OptionDraft.Sound blocking draft) :
    (DomainMap.ofSource '|' draft.domains).isEmpty = false ↔
      draft.domains ≠ [] := by
  constructor
  · intro someDomain noSource
    rw [noSource] at someDomain
    cases someDomain
  · exact sound.domains

/-- A text is set and not empty exactly if it is set, where it must not be empty. -/
theorem getD_nil_ne_nil_iff
    {value : Option Text}
    (notEmpty : value ≠ some []) :
    value.getD [] ≠ [] ↔ value.isSome = true := by
  cases value with
  | none =>
      simp
  | some text =>
      simpa using notEmpty

theorem isSome_of_getD_nil_ne_nil
    {value : Option Text}
    (notEmpty : value.getD [] ≠ []) :
    value.isSome = true := by
  cases value with
  | none =>
      exact absurd rfl notEmpty
  | some text =>
      rfl

/-- A rule on addresses that is read from a text is well-formed. -/
theorem UrlRule.wellFormed_of_parse
    (parsed : Rule.parse strict text = .ok (.url rule)) :
    rule.WellFormed text := by
  obtain ⟨blocking, rest, pattern, options, start, _, noFault, rfl⟩ :=
    Rule.exists_options_of_parse parsed
  obtain ⟨_, noCombinationFault⟩ := RuleOptions.fault?_eq_none_iff.mp noFault
  have sound := RuleOptions.sound_of_fault?_eq_none noFault
  generalize OptionDraft.ofSettings (options.map Setting.ofOption) = draft at *
  obtain ⟨specific, ascii, rewrites⟩ :=
    RuleOptions.of_combinationFault?_eq_none noCombinationFault
  have sourceAscii : ∀ c ∈ draft.domains, c.toNat < 0x80 := by
    simpa [RuleOptions.isAscii] using ascii
  have patternText :
      (Pattern.ofText pattern draft.matchCase).text = pattern := by
    unfold Pattern.ofText
    split <;> rfl
  have blocks_of_action :
      (if blocking then UrlAction.block else .allow) = .block →
        blocking = true := by
    cases blocking <;> simp
  exact
    { text_eq := rfl
      allow_iff := by
        rw [← RuleOptions.blocking_eq_false_iff start]
        cases blocking
        · exact iff_of_true rfl rfl
        · exact iff_of_false nofun nofun
      domains_iff := sound.domains_iff
      domainSource_ascii := sourceAscii
      domains_keys := fun key member =>
        DomainMap.isKey_of_mem_keys sourceAscii (by decide) member
      csp_of_block := fun isBlock =>
        sound.hasBit_csp_iff.trans
          (getD_nil_ne_nil_iff (sound.csp (blocks_of_action isBlock))).symm
      header_of_block := fun isBlock =>
        sound.hasBit_header_iff.trans
          (getD_nil_ne_nil_iff (sound.header (blocks_of_action isBlock))).symm
      csp_of_allow := fun _ notEmpty =>
        sound.hasBit_csp_iff.mpr (isSome_of_getD_nil_ne_nil notEmpty)
      header_of_allow := fun _ notEmpty =>
        sound.hasBit_header_iff.mpr (isSome_of_getD_nil_ne_nil notEmpty)
      rewrite_of_block := by
        intro isBlock someRewrite
        have allowed :=
          RuleOptions.of_mayRewrite
            (rewrites (blocks_of_action isBlock) someRewrite)
        rw [← sound.domains_iff] at allowed
        change
          (['|', '|'] <+: (Pattern.ofText pattern draft.matchCase).text ∧ _) ∨
            (['*'] <+: (Pattern.ofText pattern draft.matchCase).text ∧ _)
        rw [patternText]
        exact allowed
      specific := by
        intro someDomain someKey
        have keysGiven : draft.sitekeys ≠ [] := by
          intro noKeys
          exact someKey (if_pos noKeys)
        have longEnough :=
          RuleOptions.of_isSpecificEnough
            (specific (sound.domains_iff.mp someDomain) keysGiven)
        rw [← patternText] at longEnough
        exact longEnough
      bits_lt := sound.mask_bits_lt }

/-- A rule with a restriction to domains and an injected header is well-formed. -/
theorem UrlRule.wellFormed_of_parse_header :
    ∃ rule : UrlRule,
      Rule.parse true "||ab^$domain=X.y|~z,header=h".toList =
          .ok (.url rule) ∧
        rule.WellFormed "||ab^$domain=X.y|~z,header=h".toList := by
  have parsed :
      Rule.parse true "||ab^$domain=X.y|~z,header=h".toList =
        .ok (.url (UrlRule.ofOptions "||ab^$domain=X.y|~z,header=h".toList
          ⟨true, "||ab^".toList, ⟨0x4FFFFFF⟩, false, "X.y|~z".toList, none,
            [], [], "h".toList, []⟩)) := by
    decide +kernel
  exact ⟨_, parsed, UrlRule.wellFormed_of_parse parsed⟩

end AdFilter
