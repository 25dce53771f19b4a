import AdFilter.Text.Quoted

namespace AdFilter

/-!
# Rejected rules

A text that is not a rule is rejected for one reason.
-/

/-- Why a text is not a rule. -/
inductive RejectionReason where
  | empty
  | invalid
  | invalidCsp
  | invalidHeader
  | unknownOption
  | invalidRewrite
  | urlNotSpecificEnough
  | invalidDomain
  deriving Repr, DecidableEq

/-- The name of a reason in reports. -/
def RejectionReason.name : RejectionReason → Text
  | .empty => "filter_empty".toList
  | .invalid => "filter_invalid".toList
  | .invalidCsp => "filter_invalid_csp".toList
  | .invalidHeader => "filter_invalid_header".toList
  | .unknownOption => "filter_unknown_option".toList
  | .invalidRewrite => "filter_invalid_rewrite".toList
  | .urlNotSpecificEnough => "filter_url_not_specific_enough".toList
  | .invalidDomain => "filter_invalid_domain".toList

/-- A text that is not a rule, with the reason. -/
structure Rejection where
  reason : RejectionReason
  text : Text
  deriving Repr, DecidableEq

/-- The wording of a rejection. -/
def Rejection.message (rejection : Rejection) : Text :=
  rejection.reason.name ++ [':', ' '] ++ Text.quoted rejection.text

end AdFilter
