import AdFilter.Options.Csp
import AdFilter.Options.Setting

namespace AdFilter

/-!
# Options of a rule

The text of a rule on addresses is a pattern with options after it; two `@` in front make it an exception.  Some
combinations of options are refused: short patterns for few pages, policies that could report elsewhere, and rewrites
that could redirect any site.
-/

/-- The pattern and the options of a rule on addresses. -/
structure RuleOptions where
  blocking : Bool
  pattern : Text
  contentTypes : TypeMask
  matchCase : Bool
  domains : Text
  thirdParty : Option Bool
  sitekeys : Text
  csp : Text
  header : Text
  rewrite : Text
  deriving Repr, DecidableEq

namespace RuleOptions

/-- The fewest characters of a pattern that is restricted by domain and by sitekey. -/
def leastPatternLength : Nat := 4

/-- The number of bars, two at most, that a text begins with. -/
def leadingBars : Text → Nat
  | '|' :: '|' :: _ => 2
  | '|' :: _ => 1
  | _ => 0

/-- Whether a pattern restricted by domain and by sitekey is long enough. -/
def isSpecificEnough (pattern : Text) : Bool :=
  leastPatternLength + leadingBars pattern ≤ pattern.length || pattern.elem '*'

/-- Whether a blocking rule with a pattern and options may rewrite. -/
def mayRewrite (pattern : Text) (draft : OptionDraft) : Bool :=
  match pattern with
  | '|' :: '|' :: _ => draft.domains ≠ [] || draft.thirdParty ≠ some true
  | '*' :: _ => draft.domains ≠ []
  | _ => false

/-- Whether all characters of a text are ASCII. -/
def isAscii (text : Text) : Bool :=
  text.all fun c => c.toNat < 0x80

/-- Why a combination of options is refused. -/
def combinationFault? (blocking : Bool) (pattern : Text) (draft : OptionDraft) : Option RejectionReason :=
  if draft.domains ≠ [] ∧ draft.sitekeys ≠ [] ∧ isSpecificEnough pattern = false then
    some .urlNotSpecificEnough
  else if isAscii draft.domains = false then
    some .invalidDomain
  else if blocking ∧ Csp.isForbidden (draft.csp.getD []) then
    some .invalidCsp
  else if blocking ∧ draft.rewrite ≠ [] ∧ mayRewrite pattern draft = false then
    some .invalidRewrite
  else
    none

/-- Whether the text of a rule is that of a blocking rule, and the text without the mark of an exception. -/
def blockingAndRest : Text → Bool × Text
  | '@' :: '@' :: rest => (false, rest)
  | text => (true, text)

/-- The pattern and the options that a draft makes up. -/
def ofDraft (blocking : Bool) (pattern : Text) (draft : OptionDraft) : RuleOptions where
  blocking := blocking
  pattern := pattern
  contentTypes := draft.mask
  matchCase := draft.matchCase
  domains := draft.domains
  thirdParty := draft.thirdParty
  sitekeys := draft.sitekeys
  csp := draft.csp.getD []
  header := draft.header.getD []
  rewrite := draft.rewrite

/-- The first reason why settings are refused for a pattern: single settings in order, then their combination. -/
def fault? (strict blocking : Bool) (pattern : Text) (settings : List Setting) : Option RejectionReason :=
  match settings.findSome? (Setting.fault? blocking strict) with
  | some reason => some reason
  | none => combinationFault? blocking pattern (OptionDraft.ofSettings settings)

/-- The pattern and the options of the text of a rule; strict parsing refuses unknown options. -/
def parse (strict : Bool) (text : Text) : Except Rejection RuleOptions :=
  let (blocking, rest) := blockingAndRest text
  let (pattern, options) := OptionClause.split rest
  let settings := options.map Setting.ofOption
  match fault? strict blocking pattern settings with
  | some reason => .error ⟨reason, text⟩
  | none => .ok (ofDraft blocking pattern (OptionDraft.ofSettings settings))

end RuleOptions

end AdFilter
