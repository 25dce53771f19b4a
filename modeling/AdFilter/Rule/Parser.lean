import AdFilter.Rule.Content

namespace AdFilter

/-!
# Reading rules

A text that begins with an exclamation mark is a comment.  A text with the form of a rule on contents is one, and
every other text is a rule on addresses.
-/

namespace UrlRule

/-- The rule on addresses of a text, whatever else the text may be. -/
def ofText (strict : Bool) (text : Text) : Except Rejection UrlRule :=
  match RuleOptions.parse strict text with
  | .error rejection => .error rejection
  | .ok options => .ok (ofOptions text options)

/-- The rule on addresses of a text that is no comment and no rule on contents. -/
def parse (strict : Bool) (text : Text) : Except Rejection UrlRule :=
  match text with
  | [] => .error ⟨.empty, text⟩
  | first :: _ =>
      if first = '!' ∨ (ContentParts.ofText? text).isSome then
        .error ⟨.invalid, text⟩
      else
        ofText strict text

end UrlRule

namespace Rule

/-- The rule of a text; strict parsing refuses unknown options. -/
def parse (strict : Bool) (text : Text) : Except Rejection Rule :=
  match text with
  | [] => .error ⟨.empty, text⟩
  | first :: _ =>
      if first = '!' then
        .ok (.comment text)
      else
        match ContentParts.ofText? text with
        | some parts => .ok (.content (ContentRule.ofParts text parts))
        | none =>
            match UrlRule.ofText strict text with
            | .ok rule => .ok (.url rule)
            | .error rejection => .error rejection

/-- A rule, or a rejection kept as one. -/
def ofResult : Except Rejection Rule → Rule
  | .ok rule => rule
  | .error rejection => .invalid rejection

/-- The rule of a text, or its rejection. -/
def readLine (strict : Bool) (text : Text) : Rule :=
  ofResult (parse strict text)

end Rule

end AdFilter
