import AdFilter.ContentType
import AdFilter.Domain
import AdFilter.Options.Clause
import AdFilter.Rejection

namespace AdFilter

/-!
# Settings

Every option of a rule sets one thing.  Whether an option is acceptable does not depend on the other options; what
a list of options sets is the result of applying them one after the other.
-/

/-- What an option sets; a value is empty if the option has none. -/
inductive Setting where
  | applyTo (contentType : ContentType)
  | exceptFor (contentType : ContentType)
  | csp (policy : Text)
  | header (condition : Text)
  | matchCase (value : Bool)
  | domains (source : Text)
  | thirdParty (value : Bool)
  | sitekeys (source : Text)
  | rewrite (resource : Text)
  | unknown
  deriving Repr, DecidableEq

namespace Setting

/-- The text in front of the name of a resource. -/
def resourceLead : Text := "abp-resource:".toList

/-- The key of an option with its tilde, and its value. -/
def keyAndValue (option : Text) : Text × Text :=
  (option.takeWhile (· ≠ '='), (option.dropWhile (· ≠ '=')).drop 1)

/-- The setting of an option with a key that names no content type. -/
def ofOtherKey (negated : Bool) (key value : Text) : Setting :=
  if key = "match-case".toList then
    .matchCase !negated
  else if key = "domain".toList then
    .domains value
  else if key = "third-party".toList ∨ key = "3p".toList then
    .thirdParty !negated
  else if key = "first-party".toList ∨ key = "1p".toList then
    .thirdParty negated
  else if key = "sitekey".toList then
    .sitekeys value
  else if key = "rewrite".toList then
    .rewrite value
  else
    .unknown

/-- The setting of an option with a key that names a content type. -/
def ofContentType (negated : Bool) (contentType : ContentType) (value : Text) : Setting :=
  if negated then
    .exceptFor contentType
  else
    match contentType with
    | .csp => .csp value
    | .header => .header value
    | _ => .applyTo contentType

/-- The setting of an option. -/
def ofOption (option : Text) : Setting :=
  let (markedKey, value) := keyAndValue option
  let negated := markedKey.head? = some '~'
  let key := OptionClause.withoutTilde markedKey
  match ContentType.ofName? key with
  | some contentType => ofContentType negated contentType value
  | none => ofOtherKey negated (Text.lower key) value

/-- Why a setting is not acceptable, for a blocking rule or an exception and with or without unknown keys. -/
def fault? (blocking strict : Bool) : Setting → Option RejectionReason
  | .csp policy => if blocking && policy = [] then some .invalidCsp else none
  | .header condition => if blocking && condition = [] then some .invalidHeader else none
  | .domains source => if (DomainMap.ofSource '|' source).isEmpty then some .unknownOption else none
  | .sitekeys source => if source = [] then some .unknownOption else none
  | .rewrite resource =>
      if resource = [] then
        some .unknownOption
      else if resourceLead.isPrefixOf resource then
        none
      else
        some .invalidRewrite
  | .unknown => if strict then some .unknownOption else none
  | _ => none

end Setting

/-- What the options of a rule have set so far. -/
structure OptionDraft where
  contentTypes : Option TypeMask
  matchCase : Bool
  domains : Text
  thirdParty : Option Bool
  sitekeys : Text
  csp : Option Text
  header : Option Text
  rewrite : Text
  deriving Repr, DecidableEq

namespace OptionDraft

/-- What is set without options. -/
def empty : OptionDraft :=
  ⟨none, false, [], none, [], none, none, []⟩

/-- Apply a setting. -/
def set (draft : OptionDraft) : Setting → OptionDraft
  | .applyTo contentType =>
      { draft with
        contentTypes := some ((draft.contentTypes.getD .empty).union (.ofType contentType)) }
  | .exceptFor contentType =>
      { draft with
        contentTypes := some ((draft.contentTypes.getD .resources).exclude (.ofType contentType)) }
  | .csp policy => { draft with csp := some policy }
  | .header condition => { draft with header := some condition }
  | .matchCase value => { draft with matchCase := value }
  | .domains source => { draft with domains := source }
  | .thirdParty value => { draft with thirdParty := some value }
  | .sitekeys source => { draft with sitekeys := source }
  | .rewrite resource =>
      { draft with rewrite := (Setting.resourceLead.isPrefixOf? resource).getD [] }
  | .unknown => draft

/-- What a list of settings sets. -/
def ofSettings (settings : List Setting) : OptionDraft :=
  settings.foldl set empty

/-- The content types that a rule applies to: all resources unless options name some. -/
def mask (draft : OptionDraft) : TypeMask :=
  let named := draft.contentTypes.getD .resources
  let withCsp := if draft.csp.isSome then named.union (.ofType .csp) else named
  if draft.header.isSome then withCsp.union (.ofType .header) else withCsp

end OptionDraft

end AdFilter
