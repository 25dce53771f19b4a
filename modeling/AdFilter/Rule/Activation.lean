import AdFilter.Domain

namespace AdFilter

/-!
# Where rules are active

A rule may be restricted to documents by their domain and by a key that their site provides.
-/

/-- The domains and the keys that a rule is restricted to. -/
structure Restriction where
  domains : DomainMap
  sitekeys : Option (List Text)
  deriving Repr, DecidableEq

namespace Restriction

/-- Whether the rule is active whatever the document. -/
def isGeneric (restriction : Restriction) : Bool :=
  restriction.domains.isEmpty && restriction.sitekeys.isNone

/-- What the domains of the rule say of the domain of a document, if it is known. -/
def decisionFor? (restriction : Restriction) (domain : Option Text) : Option Bool :=
  match domain with
  | none => none
  | some [] => none
  | some name => restriction.domains.decision? name

/-- Whether the rule is active in a document that no domain of the rule decides about. -/
def isActiveByKey (restriction : Restriction) (sitekey : Option Text) : Bool :=
  match sitekey, restriction.sitekeys with
  | some key, some keys => keys.elem key
  | _, _ => restriction.domains.isEmpty

/--
Whether the rule is active in a document: the domains decide first, then the keys if the document provides one;
otherwise a rule without domains is active.
-/
def isActive (restriction : Restriction) (domain sitekey : Option Text) : Bool :=
  match restriction.decisionFor? domain with
  | some included => included
  | none => restriction.isActiveByKey sitekey

/-- Whether the rule names a domain or one of its parents, and includes it. -/
def isActiveOnlyOn (restriction : Restriction) (domain : Text) : Bool :=
  (restriction.domains.decision? domain).getD false

end Restriction

end AdFilter
