import AdFilter.Pattern.Source
import AdFilter.Regexp.Parser
import AdFilter.Request

namespace AdFilter

/-!
# Patterns

A pattern without special characters, or with nothing but two bars in front or a separator at the end, is looked
for in the address directly.  Every other pattern is compiled to a regular expression.
-/

/-- A pattern of a rule, compiled unless it is looked for directly. -/
structure Pattern where
  text : Text
  matchCase : Bool
  compiled : Option Regexp
  deriving Repr, DecidableEq

namespace Pattern

/-- Whether a character of a pattern may stand for something else. -/
def isSpecial (c : Char) : Bool :=
  c = '*' || c = '^' || c = '|'

/-- Whether all characters of a text stand for themselves. -/
def isPlain (text : Text) : Bool :=
  !text.any isSpecial

/-- Whether a pattern can be looked for without a regular expression. -/
def isLiteralText (text : Text) : Bool :=
  isPlain text ||
    (match ['|', '|'].isPrefixOf? text with
      | some rest => isPlain rest
      | none => false) ||
    match ['^'].isSuffixOf? text with
    | some body => isPlain body
    | none => false

/-- The pattern that is looked for directly, whatever its characters. -/
def literal (text : Text) (matchCase : Bool) : Pattern :=
  ⟨text, matchCase, none⟩

/-- The pattern of a text; one that does not compile is looked for directly. -/
def ofText (text : Text) (matchCase : Bool) : Pattern :=
  if isLiteralText text then
    literal text matchCase
  else
    ⟨text, matchCase, Regexp.parse? (source text)⟩

/-- Whether the pattern is looked for directly. -/
def isLiteral (pattern : Pattern) : Bool :=
  pattern.compiled.isNone

/-- The source of the compiled expression, or else the text of the pattern. -/
def regexpSource (pattern : Pattern) : Text :=
  if pattern.isLiteral then pattern.text else source pattern.text

/-- How the letters of the pattern are compared. -/
def caseRule (pattern : Pattern) : CaseRule :=
  if pattern.matchCase then .exact else .ignored

/-- The text that is looked for directly. -/
def soughtText (pattern : Pattern) : Text :=
  if pattern.matchCase then pattern.text else Text.lower pattern.text

/-- The location that a pattern is compared with. -/
def comparedLocation (pattern : Pattern) (request : Request) : Text :=
  if pattern.matchCase then request.location else request.locationLower

/-- Whether a host name or one of its labels may begin after a text. -/
def endsBeforeLabel (before : Text) : Bool :=
  before = [] || [':', '/', '/'].isSuffixOf before || before.getLast? = some '.'

/-- Whether a text ends or goes on with a separator. -/
def beginsWithSeparator (after : Text) : Bool :=
  match after with
  | [] => true
  | c :: _ => isSeparator c

/-- Whether a location has the first occurrence of a text where a label may begin. -/
def occursAtLabel (text location : Text) : Bool :=
  match Text.cut? text location with
  | some (before, _) => endsBeforeLabel before
  | none => false

/-- Whether the first occurrence of a text in a location is followed by a separator or the end. -/
def occursBeforeSeparator (text location : Text) : Bool :=
  match Text.cut? text location with
  | some (_, after) => beginsWithSeparator after
  | none => false

/-- Whether a text, in which only marks at the ends are special, is found in a location. -/
def literalMatches (text location : Text) : Bool :=
  match text with
  | '|' :: '|' :: rest => occursAtLabel rest location
  | '|' :: rest => rest.isPrefixOf location
  | _ =>
      match ['|'].isSuffixOf? text with
      | some body => body.isSuffixOf location
      | none =>
          match ['^'].isSuffixOf? text with
          | some body => occursBeforeSeparator body location
          | none => Text.contains text location

/-- Whether a pattern is found in a location that has been prepared for the comparison. -/
def foundIn (pattern : Pattern) (location : Text) : Bool :=
  match pattern.compiled with
  | some expression => expression.occursIn pattern.caseRule location
  | none => literalMatches pattern.soughtText location

/-- Whether a pattern matches the location of a request. -/
def matchesRequest (pattern : Pattern) (request : Request) : Bool :=
  pattern.foundIn (pattern.comparedLocation request)

end Pattern

end AdFilter
