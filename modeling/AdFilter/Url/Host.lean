import AdFilter.Text.Case
import AdFilter.Url.Ipv6

namespace AdFilter

/-!
# Hosts of addresses

The host of a URL stands in its authority, which follows `//` after the scheme.  User information before an `@`
and a port after a colon do not belong to it.  A URL whose brackets are unbalanced or hold no address, or whose
authority has a character that a server might take for a delimiter, has no host.
-/

namespace Url

/-- Whether a character is a control character of ASCII or the space. -/
def isControlOrSpace (c : Char) : Bool :=
  c.toNat ≤ 0x20

/-- Whether a character is removed wherever it stands in a URL. -/
def isRemoved (c : Char) : Bool :=
  c = '\t' || c = '\r' || c = '\n'

/-- The URL as it is read: without blanks at the start and without tabs and line breaks. -/
def cleaned (url : Text) : Text :=
  (url.dropWhile isControlOrSpace).filter fun c => !isRemoved c

/-- Whether a character may stand in a scheme after the first letter. -/
def isSchemeChar (c : Char) : Bool :=
  c.isAlphanum || c = '+' || c = '-' || c = '.'

/-- Whether a text is a scheme. -/
def isScheme (text : Text) : Bool :=
  match text with
  | [] => false
  | first :: _ => first.isAlpha && text.all isSchemeChar

/-- The URL without its scheme and the colon after it. -/
def withoutScheme (url : Text) : Text :=
  match url.dropWhile (· ≠ ':') with
  | [] => url
  | _ :: rest => if isScheme (url.takeWhile (· ≠ ':')) then rest else url

/-- Whether a character ends the authority. -/
def endsAuthority (c : Char) : Bool :=
  c = '/' || c = '?' || c = '#'

/-- The authority of a cleaned URL. -/
def authority? (url : Text) : Option Text :=
  match withoutScheme url with
  | '/' :: '/' :: rest => some (rest.takeWhile fun c => !endsAuthority c)
  | _ => none

/-- The text between the first opening bracket and the closing bracket after it. -/
def betweenBrackets (text : Text) : Text :=
  ((text.dropWhile (· ≠ '[')).drop 1).takeWhile (· ≠ ']')

/-- Whether a text is an address of a future version: `v`, hexadecimal digits, a point and more. -/
def isFutureAddress (text : Text) : Bool :=
  match text with
  | 'v' :: rest =>
      rest.takeWhile Text.isHexDigit ≠ [] &&
        match rest.dropWhile Text.isHexDigit with
        | '.' :: _ :: _ => true
        | _ => false
  | _ => false

/-- The characters beyond ASCII that turn into one of `/?#@:` under compatibility normalisation. -/
def delimiterLookalikes : List Nat :=
  [0x2047, 0x2048, 0x2049, 0x2100, 0x2101, 0x2105, 0x2106, 0x2A74, 0xFE13, 0xFE16, 0xFE55, 0xFE56, 0xFE5F,
   0xFE6B, 0xFF03, 0xFF0F, 0xFF1A, 0xFF1F, 0xFF20]

/-- Whether a character could be taken for a delimiter. -/
def isDelimiterLookalike (c : Char) : Bool :=
  delimiterLookalikes.contains c.toNat

/-- The text after the last `@`, or all of it. -/
def afterUserInfo (authority : Text) : Text :=
  (authority.reverse.takeWhile (· ≠ '@')).reverse

/-- The host and nothing else of an authority, as it is written. -/
def hostText (authority : Text) : Text :=
  let hostAndPort := afterUserInfo authority
  if hostAndPort.elem '[' then
    betweenBrackets hostAndPort
  else
    hostAndPort.takeWhile (· ≠ ':')

/--
Whether a bracket that opens a host stands first, and nothing but a port follows the closing one.  Text beside the brackets is
not dropped: an authority with such text is refused as a whole, and has no host.
-/
def bracketsStandAlone (hostAndPort : Text) : Bool :=
  match hostAndPort with
  | '[' :: rest =>
      match (rest.dropWhile (· ≠ ']')).drop 1 with
      | [] => true
      | c :: _ => c = ':'
  | _ => !hostAndPort.elem '['

/-- Whether a host may have brackets around it. -/
def isBracketedHost (host : Text) : Bool :=
  if host.head? = some 'v' then isFutureAddress host else Ipv6.isAddress host

/--
Whether an authority has no brackets, or has them balanced, with an address between them and nothing but user information and
a port beside them.
-/
def bracketsAreSound (authority : Text) : Bool :=
  match authority.elem '[', authority.elem ']' with
  | false, false => true
  | true, true => bracketsStandAlone (afterUserInfo authority) && isBracketedHost (hostText authority)
  | _, _ => false

/-- The lower-case form of a host; the zone of an address keeps its letters. -/
def lowerHost (host : Text) : Text :=
  Text.lower (host.takeWhile (· ≠ '%')) ++ host.dropWhile (· ≠ '%')

/-- The lower-case host of a URL, or the empty text if it has none. -/
def host (url : Text) : Text :=
  match authority? (cleaned url) with
  | none => []
  | some authority =>
      if bracketsAreSound authority && !authority.any isDelimiterLookalike then
        lowerHost (hostText authority)
      else
        []

/-- Whether one text is another one with labels and a point in front. -/
def isSubdomain (domain parent : Text) : Bool :=
  ('.' :: parent).isSuffixOf domain

/--
Whether a request is third-party for a page on a domain: its host is neither the domain nor above nor below
it.  A request without a host is third-party.
-/
def isThirdParty (url documentDomain : Text) : Bool :=
  let requestHost := host url
  let pageDomain := Text.lower documentDomain
  if requestHost = [] then
    true
  else if requestHost = pageDomain then
    false
  else
    !isSubdomain pageDomain requestHost && !isSubdomain requestHost pageDomain

end Url

end AdFilter
