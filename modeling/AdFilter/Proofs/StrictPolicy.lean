import AdFilter.Proofs.TextForms

namespace AdFilter

/-!
# What the strict policy changes

Strict reading refuses unknown options and changes nothing else: it gives what lenient reading gives, or it refuses the
text for an unknown option.  This passes from single settings to whole rules.
-/

variable {blocking : Bool} {pattern text : Text} {rule : Rule}

theorem Setting.fault?_strict_cases
    (setting : Setting) :
    setting.fault? blocking true = setting.fault? blocking false ∨
      setting.fault? blocking true = some .unknownOption := by
  cases setting with
  | unknown =>
      exact Or.inr rfl
  | _ =>
      exact Or.inl rfl

/-- The first fault of settings is the same for the strict policy, or that of an unknown option before it. -/
theorem Setting.findSome?_fault?_strict_cases
    (settings : List Setting) :
    settings.findSome? (Setting.fault? blocking true) =
        settings.findSome? (Setting.fault? blocking false) ∨
      settings.findSome? (Setting.fault? blocking true) =
        some .unknownOption := by
  induction settings with
  | nil =>
      exact Or.inl rfl
  | cons setting others inductionHypothesis =>
      simp only [List.findSome?_cons]
      rcases setting.fault?_strict_cases with same | unknown
      · rw [same]
        cases setting.fault? blocking false with
        | none =>
            exact inductionHypothesis
        | some reason =>
            exact Or.inl rfl
      · rw [unknown]
        exact Or.inr rfl

namespace RuleOptions

theorem fault?_strict_cases
    (settings : List Setting) :
    fault? true blocking pattern settings =
        fault? false blocking pattern settings ∨
      fault? true blocking pattern settings = some .unknownOption := by
  unfold fault?
  rcases Setting.findSome?_fault?_strict_cases settings with same | unknown
  · rw [same]
    exact Or.inl rfl
  · rw [unknown]
    exact Or.inr rfl

theorem parse_strict_cases
    (text : Text) :
    parse true text = parse false text ∨
      parse true text = .error ⟨.unknownOption, text⟩ := by
  unfold parse
  dsimp only
  rcases fault?_strict_cases _ with same | unknown
  · rw [same]
    exact Or.inl rfl
  · rw [unknown]
    exact Or.inr rfl

end RuleOptions

theorem UrlRule.ofText_strict_cases
    (text : Text) :
    ofText true text = ofText false text ∨
      ofText true text = .error ⟨.unknownOption, text⟩ := by
  unfold ofText
  rcases RuleOptions.parse_strict_cases text with same | unknown
  · rw [same]
    exact Or.inl rfl
  · rw [unknown]
    exact Or.inr rfl

namespace Rule

/-- Strict reading of a text gives what lenient reading gives, or refuses the text for an unknown option. -/
theorem parse_strict_cases
    (text : Text) :
    parse true text = parse false text ∨
      parse true text = .error ⟨.unknownOption, text⟩ := by
  cases textForm text with
  | empty isEmpty =>
      rw [parse_of_empty isEmpty, parse_of_empty isEmpty]
      exact Or.inl rfl
  | comment begins =>
      rw [parse_of_comment begins, parse_of_comment begins]
      exact Or.inl rfl
  | content found =>
      rw [parse_of_content found, parse_of_content found]
      exact Or.inl rfl
  | address candidate =>
      rw [parse_of_address candidate, parse_of_address candidate]
      rcases UrlRule.ofText_strict_cases text with same | unknown
      · rw [same]
        exact Or.inl rfl
      · rw [unknown]
        exact Or.inr rfl

/-- What a policy accepts, a policy that is no stricter reads as the same rule. -/
theorem parse_of_stricter
    {policy strict : Bool}
    (stricter : policy = true → strict = true)
    (parsed : parse strict text = .ok rule) :
    parse policy text = .ok rule := by
  cases policy with
  | true =>
      rwa [stricter rfl] at parsed
  | false =>
      cases strict with
      | false =>
          exact parsed
      | true =>
          rcases parse_strict_cases text with same | unknown
          · rwa [← same]
          · rw [unknown] at parsed
            cases parsed

/-- What lenient reading accepts, strict reading accepts or refuses for an unknown option. -/
theorem parse_strict_of_lenient
    (parsed : parse false text = .ok rule) :
    parse true text = .ok rule ∨
      parse true text = .error ⟨.unknownOption, text⟩ := by
  rcases parse_strict_cases text with same | unknown
  · exact Or.inl (same.trans parsed)
  · exact Or.inr unknown

/-- No policy reads the empty text as a rule. -/
theorem ne_nil_of_parse
    {strict : Bool}
    (parsed : parse strict text = .ok rule) :
    text ≠ [] := by
  rintro rfl
  cases parsed

end Rule

end AdFilter
