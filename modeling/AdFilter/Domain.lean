import AdFilter.Text.Case
import AdFilter.TextMap

namespace AdFilter

/-!
# Domains

A rule may be restricted to domains by a list such as `example.com|~shop.example.com`, in which `~` excludes
a domain.  Of the entries that name a domain or one of its parents, the one with the most labels decides.
-/

namespace Domain

/-- The lower-case form of a domain, followed by its parent domains up to the last label. -/
def suffixes (domain : Text) : List Text :=
  let lowered := Text.lower domain
  lowered :: Text.tailsAfter '.' lowered

/-- The domain that an entry of a list names, and whether the entry includes it. -/
def ofEntry? (entry : Text) : Option (Text × Bool) :=
  match entry with
  | [] => none
  | ['~'] => none
  | '~' :: name => some (Text.lower name, false)
  | name => some (Text.lower name, true)

end Domain

/-- The domains that a rule names, each with whether the rule includes it. -/
abbrev DomainMap := TextMap Bool

namespace DomainMap

/-- The map of the entries of a list, in which a later entry for a domain overrides an earlier one. -/
def ofEntries (entries : List Text) : DomainMap :=
  TextMap.ofList (entries.filterMap Domain.ofEntry?)

/-- The map of a list whose entries are separated by a character. -/
def ofSource (separator : Char) (source : Text) : DomainMap :=
  ofEntries (List.splitOn separator source)

/-- A list of domains was to be split at the empty text. -/
inductive SeparatorError where
  | emptySeparator
  deriving Repr, DecidableEq

/-- The wording of the failure to split a list of domains. -/
def SeparatorError.message : SeparatorError → Text
  | .emptySeparator => "empty separator".toList

/-- The map of a list whose entries are separated by a text. -/
def ofSourceWith (separator source : Text) : Except SeparatorError DomainMap :=
  if separator = [] then
    .error .emptySeparator
  else
    .ok (ofEntries (Text.splitOnText separator source))

/-- What the map says of a domain or else of its closest parent that it names. -/
def decision? (domains : DomainMap) (domain : Text) : Option Bool :=
  (Domain.suffixes domain).findSome? domains.get?

end DomainMap

end AdFilter
