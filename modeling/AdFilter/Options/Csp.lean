import AdFilter.Text.Case
import AdFilter.Text.Word

namespace AdFilter

/-!
# Injected security policies

A blocking rule may add a content security policy to a page, but not with directives that load or report to other
addresses.  A directive is recognised at the start of the policy or after a semicolon, with at most one space before it.
-/

namespace Csp

/-- The directives that a blocking rule must not add. -/
def forbiddenDirectives : List Text :=
  ["base-uri".toList, "referrer".toList, "report-to".toList, "report-uri".toList,
   "upgrade-insecure-requests".toList]

/-- Whether a word that ends before the text ends there. -/
def endsWord : Text → Bool
  | [] => true
  | c :: _ => !Text.isWordChar c

/-- Whether a text begins with a forbidden directive. -/
def beginsForbidden (text : Text) : Bool :=
  forbiddenDirectives.any fun name =>
    match Text.afterSameLetters? name text with
    | some rest => endsWord rest
    | none => false

/-- A text without one space in front. -/
def withoutSpace : Text → Text
  | ' ' :: rest => rest
  | text => text

/-- Whether a policy has a forbidden directive. -/
def isForbidden (policy : Text) : Bool :=
  (policy :: Text.tailsAfter ';' policy).any fun directive => beginsForbidden (withoutSpace directive)

end Csp

end AdFilter
