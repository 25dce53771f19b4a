import AdFilter.Url.Host

namespace AdFilter

/-!
# Requests

A request is what rules are matched against: the address that is loaded, and the domain of the document that
loads it, if that is known.
-/

/-- A request for a location, made by a document on a domain. -/
structure Request where
  location : Text
  documentDomain : Option Text
  deriving Repr, DecidableEq

namespace Request

/-- The request for a location that the page at an address makes. -/
def ofPage (location : Text) (pageUrl : Option Text) : Request :=
  let domain := (pageUrl.map Url.host).getD []
  ⟨location, if domain = [] then none else some domain⟩

/-- The location in lower case. -/
def locationLower (request : Request) : Text :=
  Text.lower request.location

end Request

end AdFilter
