import AdFilter.Text.Basic

namespace AdFilter

/-!
# The source of a pattern's expression

A pattern is a piece of an address in which `*` stands for any characters and `^` for a separator or the end.
Bars at its ends tie it to the start or the end of the address, two bars at its start to the start of a host name
or of one of its labels.  The source of its regular expression is made by rewriting the text of the pattern step
by step.
-/

namespace Pattern

/-- Whether `^` stands for a character: all of ASCII but letters, digits and four marks. -/
def isSeparator (c : Char) : Bool :=
  c.toNat < 0x80 && !(c.isAlphanum || c = '%' || c = '-' || c = '.' || c = '_')

/-- The text with every run of wildcards shortened to a single one. -/
def collapseWildcards : Text → Text
  | [] => []
  | c :: rest =>
      let collapsed := collapseWildcards rest
      if c = '*' ∧ collapsed.head? = some '*' then collapsed else c :: collapsed

/-- The text without `lead` in front, if it is there. -/
def withoutLead (lead text : Text) : Text :=
  (lead.isPrefixOf? text).getD text

/-- The text without `tail` at the end, if it is there. -/
def withoutTail (tail text : Text) : Text :=
  (tail.isSuffixOf? text).getD text

/-- The text without wildcards at its ends, and without the bar after a separator, which would add nothing. -/
def trimmed (text : Text) : Text :=
  let inner := withoutTail ['*'] (withoutLead ['*'] (collapseWildcards text))
  if ['^', '|'].isSuffixOf inner then inner.dropLast else inner

/-- Whether a character stands for itself in an expression without a backslash in front. -/
def needsNoEscape (c : Char) : Bool :=
  c.isAlphanum || c = '_' || c = '-'

/-- The text with a backslash in front of every character that is not left as it is; wildcards are. -/
def escaped (text : Text) : Text :=
  text.flatMap fun c => if c = '*' || needsNoEscape c then [c] else ['\\', c]

/-- The source of the expression for any characters of a line. -/
def wildcardSource : Text :=
  ['.', '*']

/-- The source of the expression for a separator or the end. -/
def separatorSource : Text :=
  "(?:[\\x00-\\x24\\x26-\\x2C\\x2F\\x3A-\\x40\\x5B-\\x5E\\x60\\x7B-\\x7F]|$)".toList

/-- The source of the expression for a scheme and the labels that may stand before an anchored one. -/
def domainLabelSource : Text :=
  "^[\\w\\-]+:\\/+(?:[^\\/]+\\.)?".toList

/-- How a bar is written after escaping. -/
def escapedBar : Text :=
  ['\\', '|']

/-- The text with the source of an anchor in place of the bars in front. -/
def withStartAnchor (text : Text) : Text :=
  match (escapedBar ++ escapedBar).isPrefixOf? text with
  | some rest => domainLabelSource ++ rest
  | none =>
      match escapedBar.isPrefixOf? text with
      | some rest => '^' :: rest
      | none => text

/-- The text with the source of an anchor in place of the bar at the end. -/
def withEndAnchor (text : Text) : Text :=
  match escapedBar.isSuffixOf? text with
  | some front => front ++ ['$']
  | none => text

/-- The text with the sources of wildcards and separators in place of the marks for them. -/
def withPlaceholders (text : Text) : Text :=
  Text.replaceAll ['\\', '^'] separatorSource (Text.replaceAll ['*'] wildcardSource text)

/-- The source of the regular expression that a pattern stands for. -/
def source (text : Text) : Text :=
  withEndAnchor (withStartAnchor (withPlaceholders (escaped (trimmed text))))

end Pattern

end AdFilter
