import AdFilter.Options.Basic
import AdFilter.Pattern.Basic
import AdFilter.Resource
import AdFilter.Rule.Activation
import AdFilter.Rule.Kind

namespace AdFilter

/-!
# Rules

A line of a filter list is a comment, a rule on addresses or a rule on contents, or it is rejected.
-/

/-- A rule that blocks requests or makes exceptions. -/
structure UrlRule where
  text : Text
  action : UrlAction
  pattern : Pattern
  contentTypes : TypeMask
  thirdParty : Option Bool
  domains : DomainMap
  domainSource : Text
  sitekeys : Option (List Text)
  csp : Text
  header : Text
  rewrite : Text
  deriving Repr, DecidableEq

/-- A rule that acts inside a page; its body is a selector or a script. -/
structure ContentRule where
  text : Text
  action : ContentAction
  body : Text
  domains : DomainMap
  domainSource : Text
  deriving Repr, DecidableEq

/-- What a line of a filter list stands for. -/
inductive Rule where
  | comment (text : Text)
  | invalid (rejection : Rejection)
  | url (rule : UrlRule)
  | content (rule : ContentRule)
  deriving Repr, DecidableEq

namespace UrlRule

/-- The domains and keys that the rule is restricted to. -/
def restriction (rule : UrlRule) : Restriction :=
  ⟨rule.domains, rule.sitekeys⟩

/-- Whether the rule acts on headers, which only trusted lists may do. -/
def needsTrustedList (rule : UrlRule) : Bool :=
  rule.contentTypes.overlaps (.ofType .header)

/-- Whether the rule applies to one of the types of a request; types that describe its context do not count. -/
def appliesToTypes (rule : UrlRule) (types : TypeMask) : Bool :=
  (types.diff .context).overlaps rule.contentTypes

/-- Whether the rule applies to the party of a request; it does if the document is unknown. -/
def appliesToParty (rule : UrlRule) (request : Request) : Bool :=
  match rule.thirdParty, request.documentDomain with
  | some thirdParty, some domain => Url.isThirdParty request.location domain == thirdParty
  | _, _ => true

/-- Whether the rule applies to a request of some types, from a document that may provide a key. -/
def matchesRequest (rule : UrlRule) (request : Request) (types : TypeMask) (sitekey : Option Text) : Bool :=
  rule.appliesToTypes types &&
    (rule.restriction.isActive request.documentDomain sitekey &&
      (rule.appliesToParty request && rule.pattern.matchesRequest request))

/-- The address to load instead of another one: that of the rule's resource, if there is one. -/
def rewriteUrl (rule : UrlRule) (url : Text) : Text :=
  if rule.rewrite = [] then
    url
  else
    (Resource.address? rule.rewrite).getD url

/-- The rule on addresses that a pattern and options make up. -/
def ofOptions (text : Text) (options : RuleOptions) : UrlRule where
  text := text
  action := if options.blocking then .block else .allow
  pattern := Pattern.ofText options.pattern options.matchCase
  contentTypes := options.contentTypes
  thirdParty := options.thirdParty
  domains := DomainMap.ofSource '|' options.domains
  domainSource := options.domains
  sitekeys := if options.sitekeys = [] then none else some (List.splitOn '|' options.sitekeys)
  csp := options.csp
  header := options.header
  rewrite := options.rewrite

end UrlRule

namespace ContentRule

/-- The domains that the rule is restricted to. -/
def restriction (rule : ContentRule) : Restriction :=
  ⟨rule.domains, none⟩

/-- Whether the rule runs a script, which only trusted lists may do. -/
def needsTrustedList (rule : ContentRule) : Bool :=
  rule.action = .runSnippet

/-- The selector of a rule that hides elements or makes an exception from hiding. -/
def selector? (rule : ContentRule) : Option Text :=
  match rule.action with
  | .hide => some rule.body
  | .unhide => some rule.body
  | .emulateHiding => some rule.body
  | .runSnippet => none
  | .tooBroad => none

/-- The script of a rule that runs one. -/
def script? (rule : ContentRule) : Option Text :=
  if rule.action = .runSnippet then some rule.body else none

end ContentRule

namespace Rule

/-- The text that a rule was read from. -/
def text : Rule → Text
  | .comment text => text
  | .invalid rejection => rejection.text
  | .url rule => rule.text
  | .content rule => rule.text

/-- The kind of a rule. -/
def kind : Rule → RuleKind
  | .comment _ => .comment
  | .invalid _ => .invalid
  | .url rule => .url rule.action
  | .content rule => .content rule.action

/-- Whether a rule can apply to anything. -/
def isActiveRule : Rule → Bool
  | .comment _ => false
  | .invalid _ => false
  | .url _ => true
  | .content _ => true

end Rule

end AdFilter
