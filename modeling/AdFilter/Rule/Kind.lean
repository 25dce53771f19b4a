import AdFilter.Text.Quoted

namespace AdFilter

/-!
# Kinds of rules

Rules on addresses block requests or make exceptions.  Rules on contents hide elements of a page, make exceptions
from hiding, or run scripts in it; those that would act on too many pages are kept as too broad.
-/

/-- What a rule on addresses does with a request. -/
inductive UrlAction where
  | block
  | allow
  deriving Repr, DecidableEq

/-- What a rule on contents does in a page. -/
inductive ContentAction where
  | hide
  | unhide
  | emulateHiding
  | runSnippet
  | tooBroad
  deriving Repr, DecidableEq

/-- The kind of a rule. -/
inductive RuleKind where
  | comment
  | invalid
  | url (action : UrlAction)
  | content (action : ContentAction)
  deriving Repr, DecidableEq

namespace RuleKind

/-- All kinds of rules. -/
def all : List RuleKind :=
  [.comment, .invalid, .url .block, .url .allow, .content .hide, .content .unhide, .content .emulateHiding,
   .content .runSnippet, .content .tooBroad]

/-- The name of a kind in reports. -/
def name : RuleKind → Text
  | .comment => "comment".toList
  | .invalid => "invalid".toList
  | .url .block => "blocking".toList
  | .url .allow => "allowing".toList
  | .content .hide => "elemhide".toList
  | .content .unhide => "elemhideexception".toList
  | .content .emulateHiding => "elemhideemulation".toList
  | .content .runSnippet => "snippet".toList
  | .content .tooBroad => "invalid_content".toList

/-- The name of a kind in messages. -/
def capitalName : RuleKind → Text
  | .comment => "COMMENT".toList
  | .invalid => "INVALID".toList
  | .url .block => "BLOCKING".toList
  | .url .allow => "ALLOWING".toList
  | .content .hide => "ELEMHIDE".toList
  | .content .unhide => "ELEMHIDE_EXCEPTION".toList
  | .content .emulateHiding => "ELEMHIDE_EMULATION".toList
  | .content .runSnippet => "SNIPPET".toList
  | .content .tooBroad => "INVALID_CONTENT".toList

end RuleKind

/-- A kind of rule is unknown, or not one of those that were asked for. -/
inductive KindError where
  | unknown (name : Text)
  | notUrl (kind : RuleKind)
  | notContent (kind : RuleKind)
  deriving Repr, DecidableEq

/-- The wording of a failure with kinds. -/
def KindError.message : KindError → Text
  | .unknown name => Text.quoted name ++ " is not a valid FilterType".toList
  | .notUrl kind => "Not a URL filter type: FilterType.".toList ++ kind.capitalName
  | .notContent kind => "Not a content filter type: FilterType.".toList ++ kind.capitalName

namespace RuleKind

/-- The kind with a name. -/
def ofName (name : Text) : Except KindError RuleKind :=
  match all.find? fun kind => kind.name == name with
  | some kind => .ok kind
  | none => .error (.unknown name)

/-- The action of a kind of rules on addresses. -/
def urlAction : RuleKind → Except KindError UrlAction
  | .url action => .ok action
  | kind => .error (.notUrl kind)

/-- The action of a kind of rules on contents. -/
def contentAction : RuleKind → Except KindError ContentAction
  | .content action => .ok action
  | kind => .error (.notContent kind)

end RuleKind

end AdFilter
