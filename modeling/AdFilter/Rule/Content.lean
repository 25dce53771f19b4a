import AdFilter.Rule.Basic

namespace AdFilter

/-!
# Reading rules on contents

A rule on contents is written `domains#mark#body`, where the mark says what the rule does.  The domains are as short as
possible.  Rules that would hide too much or run on any page are kept as too broad.
-/

/-- The mark between the domains and the body of a rule on contents. -/
inductive ContentMark where
  | hide
  | unhide
  | emulateHiding
  | runSnippet
  deriving Repr, DecidableEq

namespace ContentMark

/-- All marks. -/
def all : List ContentMark :=
  [.hide, .unhide, .emulateHiding, .runSnippet]

/-- How a mark is written between the number signs. -/
def written : ContentMark → Text
  | .hide => []
  | .unhide => ['@']
  | .emulateHiding => ['?']
  | .runSnippet => ['$']

/-- What a rule with a mark does. -/
def action : ContentMark → ContentAction
  | .hide => .hide
  | .unhide => .unhide
  | .emulateHiding => .emulateHiding
  | .runSnippet => .runSnippet

/-- Whether a mark is only for rules that name a domain. -/
def needsDomain : ContentMark → Bool
  | .hide => false
  | .unhide => false
  | .emulateHiding => true
  | .runSnippet => true

/-- A text between number signs is no mark. -/
structure UnknownMark where
  text : Text
  deriving Repr, DecidableEq

/-- The wording of the failure to read a mark. -/
def UnknownMark.message (failure : UnknownMark) : Text :=
  Text.quoted failure.text

/-- The mark that is written as a text. -/
def ofText (text : Text) : Except UnknownMark ContentMark :=
  match all.find? fun mark => mark.written == text with
  | some mark => .ok mark
  | none => .error ⟨text⟩

end ContentMark

/-- The parts of the text of a rule on contents. -/
structure ContentParts where
  domains : Text
  mark : ContentMark
  body : Text
  deriving Repr, DecidableEq

namespace ContentParts

/-- Whether a character cannot stand in the domains of a rule on contents. -/
def isExcludedFromDomains (c : Char) : Bool :=
  c = '/' || c = '|' || c = '@' || c = '"' || c = '!'

/-- Whether a text is a body: not empty, and on a single line. -/
def isBody (text : Text) : Bool :=
  text ≠ [] && !text.elem '\n'

/-- The mark and the body after the first number sign. -/
def markAndBody? (text : Text) : Option (ContentMark × Text) :=
  let parts? : Option (ContentMark × Text) :=
    match text with
    | '#' :: body => some (.hide, body)
    | '@' :: '#' :: body => some (.unhide, body)
    | '?' :: '#' :: body => some (.emulateHiding, body)
    | '$' :: '#' :: body => some (.runSnippet, body)
    | _ => none
  parts?.filter fun parts => isBody parts.2

/-- The parts of the text of a rule on contents, if it is one. -/
def ofText? : Text → Option ContentParts
  | [] => none
  | c :: rest =>
      match if c = '#' then markAndBody? rest else none with
      | some (mark, body) => some ⟨[], mark, body⟩
      | none =>
          if isExcludedFromDomains c then
            none
          else
            (ofText? rest).map fun parts => { parts with domains := c :: parts.domains }

end ContentParts

namespace ContentRule

/-- The fewest characters of a body that is active on all domains. -/
def leastBodyLength : Nat := 3

/-- Whether an entry of a list of domains names nothing. -/
def isBlankEntry (entry : Text) : Bool :=
  entry = [] || entry = ['~']

/-- Whether an entry names nothing; a line feed at the end of the last entry does not count. -/
def hasBlankEntry : List Text → Bool
  | [] => false
  | [last] => isBlankEntry last || last = ['\n'] || last = ['~', '\n']
  | entry :: others => isBlankEntry entry || hasBlankEntry others

/--
Whether a text begins with the name of a domain with a point after its first character and more after the point.
The first character may be anything but a tilde.
-/
def beginsWithDottedName (text : Text) : Bool :=
  match text with
  | [] => false
  | first :: rest =>
      first ≠ '~' &&
        match rest.dropWhile fun c => c ≠ ',' && c ≠ '.' with
        | '.' :: next :: _ => next ≠ ','
        | _ => false

/-- Whether a list of domains includes a real domain: one with a point in it, or the local host. -/
def namesRealDomain (domains : Text) : Bool :=
  (domains :: Text.tailsAfter ',' domains).any beginsWithDottedName ||
    (List.splitOn ',' domains).elem "localhost".toList

/-- What a rule with a mark, domains and a body does. -/
def actionOf (mark : ContentMark) (domains body : Text) : ContentAction :=
  if domains ≠ [] ∧ hasBlankEntry (List.splitOn ',' domains) then
    .tooBroad
  else if namesRealDomain domains then
    mark.action
  else if mark.needsDomain ∨ body.length < leastBodyLength then
    .tooBroad
  else
    mark.action

/-- The rule on contents that parts make up. -/
def ofParts (text : Text) (parts : ContentParts) : ContentRule where
  text := text
  action := actionOf parts.mark parts.domains parts.body
  body := parts.body
  domains := DomainMap.ofSource ',' parts.domains
  domainSource := parts.domains

end ContentRule

end AdFilter
