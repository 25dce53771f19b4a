import AdFilter.Pattern.Basic

namespace AdFilter

/-!
# Keywords of patterns

Large sets of rules are indexed by pieces that every matching address must have.  The keywords of a pattern are
its longest runs of ASCII letters, digits and percent signs that have a fixed delimiter on both sides: a run at an end
of the pattern or beside a wildcard may be part of a longer one in the address.
-/

namespace Pattern

/-- Whether a character may stand in a keyword. -/
def isKeywordChar (c : Char) : Bool :=
  c.isLower || c.isDigit || c = '%'

/-- The fewest characters of a keyword. -/
def leastKeywordLength : Nat := 2

/--
The keywords from a place in a lower-case pattern on, where `delimited` says whether the run that is being read
has a delimiter before it, and `run` is its part before that place, last character first.
-/
def keywordsFrom (delimited : Bool) (run : Text) : Text → List Text
  | [] => []
  | c :: rest =>
      if isKeywordChar c then
        keywordsFrom delimited (c :: run) rest
      else
        let later := keywordsFrom (c ≠ '*') [] rest
        if delimited && leastKeywordLength ≤ run.length && c ≠ '*' then run.reverse :: later else later

/-- The keywords of a pattern, without repetition, in the order in which they occur first. -/
def keywords (text : Text) : List Text :=
  (keywordsFrom false [] (Text.lower text)).eraseDups

/-- Whether a pattern has a keyword. -/
def hasKeywords (text : Text) : Bool :=
  keywordsFrom false [] (Text.lower text) ≠ []

end Pattern

end AdFilter
