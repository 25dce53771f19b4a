import AdFilter.Proofs.UrlRuleForm

namespace AdFilter

/-!
# Three ways to read a text

A text is read as a rule of any kind, as a rule on addresses only, or as a line, for which a refusal is a rule as well.  The
form of the text is looked at twice, and a refusal may come from any of its options.  All the same the three ways
agree: each of them can be told from the first one, which refuses texts for a few reasons only and names them in full.
-/

variable {strict blocking : Bool} {text pattern : Text} {reason : RejectionReason} {rejection : Rejection}

/-! ## Reasons for a refusal -/

/-- A reason that is about the options of a text, and not about its form. -/
structure RejectionReason.ConcernsOptions (reason : RejectionReason) : Prop where
  notEmpty : reason ≠ .empty
  notInvalid : reason ≠ .invalid

theorem RejectionReason.concernsOptions_of_ite
    {condition : Prop}
    [Decidable condition]
    {found : RejectionReason}
    (faulty : (if condition then some found else none) = some reason)
    (concerns : found.ConcernsOptions) :
    reason.ConcernsOptions := by
  obtain ⟨_, same⟩ := Option.ite_none_right_eq_some.mp faulty
  rwa [Option.some.inj same] at concerns

theorem Setting.concernsOptions_of_fault?
    {setting : Setting}
    (faulty : setting.fault? blocking strict = some reason) :
    reason.ConcernsOptions := by
  cases setting with
  | csp policy =>
      exact RejectionReason.concernsOptions_of_ite faulty ⟨by decide, by decide⟩
  | header condition =>
      exact RejectionReason.concernsOptions_of_ite faulty ⟨by decide, by decide⟩
  | domains source =>
      exact RejectionReason.concernsOptions_of_ite faulty ⟨by decide, by decide⟩
  | sitekeys source =>
      exact RejectionReason.concernsOptions_of_ite faulty ⟨by decide, by decide⟩
  | rewrite resource =>
      simp only [fault?] at faulty
      split at faulty
      · cases faulty
        exact ⟨by decide, by decide⟩
      · split at faulty
        · cases faulty
        · cases faulty
          exact ⟨by decide, by decide⟩
  | unknown =>
      exact RejectionReason.concernsOptions_of_ite faulty ⟨by decide, by decide⟩
  | _ =>
      cases faulty

namespace RuleOptions

theorem concernsOptions_of_combinationFault?
    {draft : OptionDraft}
    (faulty : combinationFault? blocking pattern draft = some reason) :
    reason.ConcernsOptions := by
  unfold combinationFault? at faulty
  split at faulty
  · cases faulty
    exact ⟨by decide, by decide⟩
  · split at faulty
    · cases faulty
      exact ⟨by decide, by decide⟩
    · split at faulty
      · cases faulty
        exact ⟨by decide, by decide⟩
      · exact RejectionReason.concernsOptions_of_ite faulty ⟨by decide, by decide⟩

theorem concernsOptions_of_fault?
    {settings : List Setting}
    (faulty : fault? strict blocking pattern settings = some reason) :
    reason.ConcernsOptions := by
  unfold fault? at faulty
  split at faulty
  · rename_i found
    cases faulty
    obtain ⟨setting, _, faultySetting⟩ :=
      List.exists_of_findSome?_eq_some found
    exact Setting.concernsOptions_of_fault? faultySetting
  · exact concernsOptions_of_combinationFault? faulty

/-- Options are refused for a reason that concerns them. -/
theorem concernsOptions_of_parse_eq_error
    (refused : parse strict text = .error rejection) :
    rejection.reason.ConcernsOptions := by
  unfold parse at refused
  dsimp only at refused
  split at refused
  · rename_i faulty
    cases refused
    exact concernsOptions_of_fault? faulty
  · cases refused

end RuleOptions

theorem UrlRule.concernsOptions_of_ofText_eq_error
    (refused : ofText strict text = .error rejection) :
    rejection.reason.ConcernsOptions := by
  unfold ofText at refused
  split at refused
  · rename_i optionsRefused
    cases refused
    exact RuleOptions.concernsOptions_of_parse_eq_error optionsRefused
  · cases refused

/-! ## Refusals -/

namespace Rule

variable {rule : Rule}

theorem text_of_parse
    (parsed : parse strict text = .ok rule) :
    rule.text = text := by
  have kept := text_readLine strict text
  rwa [readLine, parsed] at kept

/-- A text is refused because it is empty, or because its options are refused. -/
theorem parse_eq_error_iff :
    parse strict text = .error rejection ↔
      (text = [] ∧ rejection = ⟨.empty, text⟩) ∨
        (UrlRule.IsCandidate text ∧
          UrlRule.ofText strict text = .error rejection) := by
  constructor
  · intro refused
    cases textForm text with
    | empty isEmpty =>
        rw [parse_of_empty isEmpty] at refused
        cases refused
        exact Or.inl ⟨isEmpty, rfl⟩
    | comment begins =>
        rw [parse_of_comment begins] at refused
        cases refused
    | content found =>
        rw [parse_of_content found] at refused
        cases refused
    | address candidate =>
        rw [parse_of_address candidate] at refused
        cases read : UrlRule.ofText strict text with
        | ok urlRule =>
            rw [read] at refused
            cases refused
        | error optionsRejection =>
            rw [read] at refused
            cases refused
            exact Or.inr ⟨candidate, rfl⟩
  · rintro (⟨rfl, rfl⟩ | ⟨candidate, refused⟩)
    · rfl
    · rw [parse_of_address candidate, refused]
      rfl

/-- A refusal names the text in full, and its reason is never that the text is of another kind. -/
theorem of_parse_eq_error
    (refused : parse strict text = .error rejection) :
    rejection.text = text ∧ rejection.reason ≠ .invalid ∧
      (rejection.reason = .empty ↔ text = []) := by
  rcases parse_eq_error_iff.mp refused with
    ⟨isEmpty, rfl⟩ | ⟨candidate, optionsRefused⟩
  · exact ⟨rfl, nofun, iff_of_true rfl isEmpty⟩
  · have concerns := UrlRule.concernsOptions_of_ofText_eq_error optionsRefused
    exact
      ⟨UrlRule.text_of_ofText_eq_error optionsRefused, concerns.notInvalid,
        iff_of_false concerns.notEmpty candidate.notEmpty⟩

end Rule

/-- A text is read as a comment or as a rule on contents. -/
def Rule.IsOtherKind (strict : Bool) (text : Text) : Prop :=
  (∃ comment, parse strict text = .ok (.comment comment)) ∨
    ∃ rule, parse strict text = .ok (.content rule)

/-- As a rule on addresses a text is refused if it is refused anyway, and for its kind if it is read as another one. -/
theorem UrlRule.parse_eq_error_iff :
    parse strict text = .error rejection ↔
      Rule.parse strict text = .error rejection ∨
        (rejection = ⟨.invalid, text⟩ ∧ Rule.IsOtherKind strict text) := by
  unfold Rule.IsOtherKind
  cases textForm text with
  | empty isEmpty =>
      simp [parse_of_empty isEmpty, Rule.parse_of_empty isEmpty]
  | comment begins =>
      simp [parse_of_comment begins, Rule.parse_of_comment begins, eq_comm]
  | content found =>
      simp [parse_of_content found, Rule.parse_of_content found, eq_comm]
  | address candidate =>
      rw [parse_of_address candidate, Rule.parse_of_address candidate]
      cases ofText strict text <;> simp [Except.map]

/-! ## Agreement -/

/-- What a text is read as, or refused for, in one of the three ways is what it is in the others. -/
structure ReadingsAgree (strict : Bool) (text : Text) : Prop where
  outcome :
    (∃ rule,
        Rule.parse strict text = .ok rule ∧
          rule.text = text ∧ rule.kind ≠ .invalid) ∨
      ∃ reason,
        Rule.parse strict text = .error ⟨reason, text⟩ ∧ reason ≠ .invalid
  empty_iff :
    Rule.parse strict text = .error ⟨.empty, text⟩ ↔ text = []
  url_iff :
    ∀ rule,
      UrlRule.parse strict text = .ok rule ↔
        Rule.parse strict text = .ok (.url rule)
  otherKind_iff :
    ∀ named,
      UrlRule.parse strict text = .error ⟨.invalid, named⟩ ↔
        named = text ∧ Rule.IsOtherKind strict text
  refusal_iff :
    ∀ rejection,
      Rule.parse strict text = .error rejection ↔
        UrlRule.parse strict text = .error rejection ∧
          rejection.reason ≠ .invalid
  line :
    (∃ rule,
        Rule.parse strict text = .ok rule ∧
          Rule.readLine strict text = rule) ∨
      ∃ reason,
        Rule.parse strict text = .error ⟨reason, text⟩ ∧
          Rule.readLine strict text = .invalid ⟨reason, text⟩

/--
Under either policy, a text is read as a rule with this text, or refused with this text and for a reason that is about its
options, unless it is empty.  As a rule on addresses it is read, or refused, in the same way, and refused as invalid exactly
if it is read as a rule of another kind.  As a line it is the rule that is read, or the refusal.
-/
theorem readingsAgree
    (strict : Bool)
    (text : Text) :
    ReadingsAgree strict text where
  outcome := by
    cases result : Rule.parse strict text with
    | ok rule =>
        exact
          Or.inl
            ⟨rule, rfl, Rule.text_of_parse result,
              Rule.kind_ne_invalid_of_parse result⟩
    | error rejection =>
        obtain ⟨sameText, notInvalid, _⟩ := Rule.of_parse_eq_error result
        exact Or.inr ⟨rejection.reason, by rw [← sameText], notInvalid⟩
  empty_iff := by
    constructor
    · intro refused
      exact (Rule.of_parse_eq_error refused).2.2.mp rfl
    · exact Rule.parse_of_empty
  url_iff := fun _ => UrlRule.parse_eq_ok_iff
  otherKind_iff := by
    intro named
    rw [UrlRule.parse_eq_error_iff, or_iff_right]
    · simp
    · intro refused
      exact (Rule.of_parse_eq_error refused).2.1 rfl
  refusal_iff := by
    intro rejection
    rw [UrlRule.parse_eq_error_iff]
    constructor
    · intro refused
      exact ⟨Or.inl refused, (Rule.of_parse_eq_error refused).2.1⟩
    · rintro ⟨refused | ⟨rfl, _⟩, notInvalid⟩
      · exact refused
      · exact absurd rfl notInvalid
  line := by
    cases result : Rule.parse strict text with
    | ok rule =>
        exact Or.inl ⟨rule, rfl, by rw [Rule.readLine, result, Rule.ofResult]⟩
    | error rejection =>
        obtain ⟨sameText, _, _⟩ := Rule.of_parse_eq_error result
        refine Or.inr ⟨rejection.reason, ?_, ?_⟩
        · rw [← sameText]
        · rw [Rule.readLine, result, Rule.ofResult, ← sameText]

/-- Only rules on addresses have options, and a refusal names the text with the mark of an exception in front of it. -/
example :
    UrlRule.parse true "a#?#b$rewrite=c".toList =
        .error ⟨.invalid, "a#?#b$rewrite=c".toList⟩ ∧
      Rule.parse true "@@a$rewrite=c".toList =
        .error ⟨.invalidRewrite, "@@a$rewrite=c".toList⟩ := by
  decide +kernel

end AdFilter
