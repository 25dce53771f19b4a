import AdFilter.Proofs.OptionFields
import AdFilter.Proofs.StrictPolicy
import AdFilter.Proofs.UrlRuleForm

namespace AdFilter

/-!
# Strict reading as lenient reading of known options

The strict policy looks at nothing but the keys of options.  Where all of them are known the two policies do the same, down
to the reason for a refusal; where one is not, strict reading refuses the text, for this reason if lenient reading finds
no other one.
-/

/-- The options of the text of a rule on addresses. -/
def RuleOptions.optionTexts (text : Text) : List Text :=
  (OptionClause.split (blockingAndRest text).2).2

variable {blocking : Bool} {pattern text : Text} {settings : List Setting} {rule : Rule}

/-! ## The same reading -/

theorem Setting.fault?_strict_eq_of_ne_unknown
    {setting : Setting}
    (known : setting ≠ .unknown) :
    setting.fault? blocking true = setting.fault? blocking false := by
  cases setting with
  | unknown =>
      exact absurd rfl known
  | _ =>
      rfl

theorem Setting.findSome?_fault?_strict_eq
    (known : ∀ setting ∈ settings, setting ≠ .unknown) :
    settings.findSome? (Setting.fault? blocking true) =
      settings.findSome? (Setting.fault? blocking false) := by
  induction settings with
  | nil =>
      rfl
  | cons setting others inductionHypothesis =>
      obtain ⟨firstKnown, othersKnown⟩ := List.forall_mem_cons.mp known
      rw [List.findSome?_cons, List.findSome?_cons,
        Setting.fault?_strict_eq_of_ne_unknown firstKnown,
        inductionHypothesis othersKnown]

namespace RuleOptions

/-- Settings of which each sets something have the same fault under either policy. -/
theorem fault?_strict_eq
    (known : ∀ setting ∈ settings, setting ≠ .unknown) :
    fault? true blocking pattern settings =
      fault? false blocking pattern settings := by
  unfold fault?
  rw [Setting.findSome?_fault?_strict_eq known]

theorem parse_strict_eq
    (known : ∀ option ∈ optionTexts text, OptionField.IsKnown option) :
    parse true text = parse false text := by
  have settingsKnown :
      ∀ setting ∈ (optionTexts text).map Setting.ofOption,
        setting ≠ .unknown := by
    intro setting member isUnknown
    obtain ⟨option, isOption, rfl⟩ := List.mem_map.mp member
    exact Setting.ofOption_eq_unknown_iff.mp isUnknown (known option isOption)
  unfold optionTexts at settingsKnown
  unfold parse
  dsimp only
  rw [fault?_strict_eq settingsKnown]

/-- What strict reading accepts has known options only. -/
theorem isKnown_of_fault?_eq_none
    {options : List Text}
    (noFault :
      fault? true blocking pattern (options.map Setting.ofOption) = none) :
    ∀ option ∈ options, OptionField.IsKnown option := by
  intro option member
  by_contra unknown
  have accepted :=
    (fault?_eq_none_iff.mp noFault).1 (Setting.ofOption option)
      (List.mem_map_of_mem member)
  rw [Setting.ofOption_eq_unknown_iff.mpr unknown] at accepted
  cases accepted

end RuleOptions

theorem UrlRule.ofText_strict_eq
    (known :
      ∀ option ∈ RuleOptions.optionTexts text, OptionField.IsKnown option) :
    ofText true text = ofText false text := by
  unfold ofText
  rw [RuleOptions.parse_strict_eq known]

namespace Rule

/-- A text with known options only is read, or refused, the same under either policy. -/
theorem parse_strict_eq
    (known :
      ∀ option ∈ RuleOptions.optionTexts text, OptionField.IsKnown option) :
    parse true text = parse false text := by
  unfold parse
  rw [UrlRule.ofText_strict_eq known]

/-- The options of a rule on addresses that strict reading accepts are known. -/
theorem isKnown_of_parse_strict
    {rule : UrlRule}
    (parsed : parse true text = .ok (.url rule)) :
    ∀ option ∈ RuleOptions.optionTexts text, OptionField.IsKnown option := by
  obtain ⟨blocking, rest, pattern, options, start, cut, noFault, _⟩ :=
    exists_options_of_parse parsed
  rw [RuleOptions.optionTexts, start, cut]
  exact RuleOptions.isKnown_of_fault?_eq_none noFault

/-- What lenient reading takes for anything but a rule on addresses, strict reading takes for the same. -/
theorem parse_strict_of_ne_url
    (parsed : parse false text = .ok rule)
    (noUrl : ∀ url, rule ≠ .url url) :
    parse true text = .ok rule := by
  cases textForm text with
  | empty isEmpty =>
      rw [parse_of_empty isEmpty] at parsed
      cases parsed
  | comment begins =>
      rw [parse_of_comment begins] at parsed ⊢
      exact parsed
  | content found =>
      rw [parse_of_content found] at parsed ⊢
      exact parsed
  | address candidate =>
      obtain ⟨urlRule, _, isUrl⟩ := exists_url_of_parse candidate parsed
      exact absurd isUrl (noUrl urlRule)

/--
Strict reading accepts what lenient reading accepts, as the same rule, if that is no rule on addresses or all its options
are known.  A text that only lenient reading accepts is refused for an unknown option, and a text with known options only
is read, or refused for the same reason, under either policy.
-/
theorem parse_strict_iff_known
    (text : Text) :
    (∀ rule, parse true text = .ok rule ↔
        parse false text = .ok rule ∧
          ∀ url, rule = .url url →
            ∀ option ∈ RuleOptions.optionTexts text,
              OptionField.IsKnown option) ∧
      ((∃ rule, parse false text = .ok rule) →
        (∀ rule, parse true text ≠ .ok rule) →
        parse true text = .error ⟨.unknownOption, text⟩) ∧
      ((∀ option ∈ RuleOptions.optionTexts text, OptionField.IsKnown option) →
        parse true text = parse false text) := by
  refine ⟨?_, ?_, parse_strict_eq⟩
  · intro rule
    constructor
    · intro parsed
      refine ⟨parse_of_stricter nofun parsed, ?_⟩
      rintro url rfl
      exact isKnown_of_parse_strict parsed
    · rintro ⟨parsed, known⟩
      by_cases isUrl : ∃ url, rule = .url url
      · obtain ⟨url, isUrl⟩ := isUrl
        rw [parse_strict_eq (known url isUrl)]
        exact parsed
      · exact
          parse_strict_of_ne_url parsed
            fun url same => isUrl ⟨url, same⟩
  · rintro ⟨rule, parsed⟩ refused
    cases parse_strict_of_lenient parsed with
    | inl accepted =>
        exact absurd accepted (refused rule)
    | inr unknown =>
        exact unknown

/-- Known keys in capitals are read strictly, one unknown key among them is not, and a fault of a known option stays. -/
theorem parse_strict_iff_known_mixed :
    ∃ known lenient : Rule,
      parse false "ab$~3P,XHR".toList = .ok known ∧
        parse true "ab$~3P,XHR".toList = .ok known ∧
        parse false "@@ab$~3P,foo=1,XHR".toList = .ok lenient ∧
        parse true "@@ab$~3P,foo=1,XHR".toList =
          .error ⟨.unknownOption, "@@ab$~3P,foo=1,XHR".toList⟩ ∧
        parse true "ab$~3P,rewrite=x".toList =
          .error ⟨.invalidRewrite, "ab$~3P,rewrite=x".toList⟩ := by
  have parsedKnown :
      parse false "ab$~3P,XHR".toList =
        .ok (.url (UrlRule.ofOptions "ab$~3P,XHR".toList
          ⟨true, "ab".toList, ⟨0x800⟩, false, [], some false,
            [], [], [], []⟩)) := by
    decide +kernel
  have allKnown :
      ∀ option ∈ RuleOptions.optionTexts "ab$~3P,XHR".toList,
        OptionField.IsKnown option := by
    decide +kernel
  have parsedLenient :
      parse false "@@ab$~3P,foo=1,XHR".toList =
        .ok (.url (UrlRule.ofOptions "@@ab$~3P,foo=1,XHR".toList
          ⟨false, "ab".toList, ⟨0x800⟩, false, [], some false,
            [], [], [], []⟩)) := by
    decide +kernel
  have someUnknown :
      ¬ ∀ option ∈ RuleOptions.optionTexts "@@ab$~3P,foo=1,XHR".toList,
        OptionField.IsKnown option := by
    decide +kernel
  have refused (rule : Rule) :
      parse true "@@ab$~3P,foo=1,XHR".toList ≠ .ok rule := by
    intro parsed
    obtain ⟨parsedToo, known⟩ := ((parse_strict_iff_known _).1 rule).mp parsed
    rw [parsedLenient] at parsedToo
    exact someUnknown (known _ (Except.ok.inj parsedToo).symm)
  have faulty :
      parse false "ab$~3P,rewrite=x".toList =
        .error ⟨.invalidRewrite, "ab$~3P,rewrite=x".toList⟩ := by
    decide +kernel
  refine ⟨_, _, parsedKnown, ?_, parsedLenient, ?_, ?_⟩
  · exact
      ((parse_strict_iff_known _).1 _).mpr
        ⟨parsedKnown, fun _ _ => allKnown⟩
  · exact (parse_strict_iff_known _).2.1 ⟨_, parsedLenient⟩ refused
  · rw [(parse_strict_iff_known _).2.2 (by decide +kernel)]
    exact faulty

end Rule

end AdFilter
