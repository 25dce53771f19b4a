import AdFilter.Rule.Parser

namespace AdFilter

/-!
# The forms of texts

Before anything else is looked at, the form of a text decides how it is read: it is empty, a comment, a rule on contents
or, if it is nothing of these, a candidate for a rule on addresses.  Every way to read a text begins with this decision.
What each of them does with each form is said here once.
-/

/-- A text that is read as a rule on addresses or not at all: it is not empty, no comment and no rule on contents. -/
structure UrlRule.IsCandidate (text : Text) : Prop where
  notEmpty : text ≠ []
  noComment : text.head? ≠ some '!'
  noContent : ContentParts.ofText? text = none

/-- The form of a text. -/
inductive TextForm (text : Text) : Prop where
  | empty
      (isEmpty : text = [])
  | comment
      (begins : text.head? = some '!')
  | content
      {parts : ContentParts}
      (found : ContentParts.ofText? text = some parts)
  | address
      (candidate : UrlRule.IsCandidate text)

/-- Every text has a form. -/
theorem textForm
    (text : Text) :
    TextForm text := by
  by_cases isEmpty : text = []
  · exact .empty isEmpty
  · by_cases begins : text.head? = some '!'
    · exact .comment begins
    · cases found : ContentParts.ofText? text with
      | some parts =>
          exact .content found
      | none =>
          exact .address ⟨isEmpty, begins, found⟩

variable {strict : Bool} {text : Text} {parts : ContentParts} {rejection : Rejection}

/-- A text that has the form of a rule on contents has no other one. -/
theorem ContentParts.exists_cons_of_ofText?
    (found : ofText? text = some parts) :
    ∃ first rest, text = first :: rest ∧ first ≠ '!' := by
  cases text with
  | nil =>
      cases found
  | cons first rest =>
      refine ⟨first, rest, rfl, ?_⟩
      rintro rfl
      cases found

namespace Rule

theorem parse_of_empty
    (isEmpty : text = []) :
    parse strict text = .error ⟨.empty, text⟩ := by
  rw [isEmpty]
  rfl

theorem parse_of_comment
    (begins : text.head? = some '!') :
    parse strict text = .ok (.comment text) := by
  obtain ⟨rest, rfl⟩ := List.head?_eq_some_iff.mp begins
  rfl

theorem parse_of_content
    (found : ContentParts.ofText? text = some parts) :
    parse strict text = .ok (.content (ContentRule.ofParts text parts)) := by
  obtain ⟨first, rest, rfl, noComment⟩ :=
    ContentParts.exists_cons_of_ofText? found
  simp [parse, noComment, found]

/-- A text that is nothing else is read as a rule on addresses, or refused as one. -/
theorem parse_of_address
    (candidate : UrlRule.IsCandidate text) :
    parse strict text = (UrlRule.ofText strict text).map .url := by
  obtain ⟨notEmpty, noComment, noContent⟩ := candidate
  obtain ⟨first, rest, rfl⟩ := List.exists_cons_of_ne_nil notEmpty
  have notMark : first ≠ '!' := by
    simpa using noComment
  simp only [parse, notMark, noContent, if_false]
  cases UrlRule.ofText strict (first :: rest) <;> rfl

/-- What a candidate is read as is a rule on addresses. -/
theorem exists_url_of_parse
    {rule : Rule}
    (candidate : UrlRule.IsCandidate text)
    (parsed : parse strict text = .ok rule) :
    ∃ urlRule, UrlRule.ofText strict text = .ok urlRule ∧ rule = .url urlRule := by
  rw [parse_of_address candidate] at parsed
  cases read : UrlRule.ofText strict text with
  | ok urlRule =>
      rw [read] at parsed
      cases parsed
      exact ⟨urlRule, rfl, rfl⟩
  | error rejection =>
      rw [read] at parsed
      cases parsed

/-- A rule on contents is made up of the parts of its text. -/
theorem exists_parts_of_parse
    {rule : ContentRule}
    (parsed : Rule.parse strict text = .ok (.content rule)) :
    ∃ parts,
      ContentParts.ofText? text = some parts ∧
        rule = ContentRule.ofParts text parts := by
  cases textForm text with
  | empty isEmpty =>
      rw [parse_of_empty isEmpty] at parsed
      cases parsed
  | comment begins =>
      rw [parse_of_comment begins] at parsed
      cases parsed
  | content found =>
      rw [parse_of_content found] at parsed
      cases parsed
      exact ⟨_, found, rfl⟩
  | address candidate =>
      obtain ⟨_, _, isUrl⟩ := exists_url_of_parse candidate parsed
      cases isUrl

/-- A text that is read as a rule is not kept as one that is refused. -/
theorem kind_ne_invalid_of_parse
    {rule : Rule}
    (parsed : parse strict text = .ok rule) :
    rule.kind ≠ .invalid := by
  cases textForm text with
  | empty isEmpty =>
      rw [parse_of_empty isEmpty] at parsed
      cases parsed
  | comment begins =>
      rw [parse_of_comment begins] at parsed
      cases parsed
      exact nofun
  | content found =>
      rw [parse_of_content found] at parsed
      cases parsed
      exact nofun
  | address candidate =>
      obtain ⟨_, _, rfl⟩ := exists_url_of_parse candidate parsed
      exact nofun

end Rule

namespace UrlRule

theorem parse_of_empty
    (isEmpty : text = []) :
    parse strict text = .error ⟨.empty, text⟩ := by
  rw [isEmpty]
  rfl

theorem parse_of_comment
    (begins : text.head? = some '!') :
    parse strict text = .error ⟨.invalid, text⟩ := by
  obtain ⟨rest, rfl⟩ := List.head?_eq_some_iff.mp begins
  rfl

theorem parse_of_content
    (found : ContentParts.ofText? text = some parts) :
    parse strict text = .error ⟨.invalid, text⟩ := by
  obtain ⟨first, rest, rfl, _⟩ := ContentParts.exists_cons_of_ofText? found
  simp [parse, found]

theorem parse_of_address
    (candidate : IsCandidate text) :
    parse strict text = ofText strict text := by
  obtain ⟨notEmpty, noComment, noContent⟩ := candidate
  obtain ⟨first, rest, rfl⟩ := List.exists_cons_of_ne_nil notEmpty
  have notMark : first ≠ '!' := by
    simpa using noComment
  simp [parse, notMark, noContent]

end UrlRule

/-! ## What is kept of a text -/

theorem UrlRule.text_of_ofText
    {rule : UrlRule}
    (read : UrlRule.ofText strict text = .ok rule) :
    rule.text = text := by
  unfold UrlRule.ofText at read
  split at read
  · cases read
  · cases read
    rfl

theorem RuleOptions.text_of_parse_eq_error
    (refused : RuleOptions.parse strict text = .error rejection) :
    rejection.text = text := by
  unfold RuleOptions.parse at refused
  dsimp only at refused
  split at refused
  · cases refused
    rfl
  · cases refused

theorem UrlRule.text_of_ofText_eq_error
    (refused : UrlRule.ofText strict text = .error rejection) :
    rejection.text = text := by
  unfold UrlRule.ofText at refused
  split at refused
  · rename_i optionsRefused
    cases refused
    exact RuleOptions.text_of_parse_eq_error optionsRefused
  · cases refused

/-- A line is kept with its text, whether it is a rule or not. -/
theorem Rule.text_readLine
    (strict : Bool)
    (text : Text) :
    (Rule.readLine strict text).text = text := by
  unfold Rule.readLine
  cases textForm text with
  | empty isEmpty =>
      rw [parse_of_empty isEmpty]
      rfl
  | comment begins =>
      rw [parse_of_comment begins]
      rfl
  | content found =>
      rw [parse_of_content found]
      rfl
  | address candidate =>
      rw [parse_of_address candidate]
      cases read : UrlRule.ofText strict text with
      | ok rule =>
          exact UrlRule.text_of_ofText read
      | error rejection =>
          exact UrlRule.text_of_ofText_eq_error read

end AdFilter
