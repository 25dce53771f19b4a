import AdFilter.Regexp.Basic
import AdFilter.Text.Digits

namespace AdFilter

/-!
# Parts of an expression's source

The source of an expression is a sequence of character sets, anchors, brackets, bars and marks of repetition.
A character may be escaped by its code point.  The dialect has no references to groups, no names of characters, no
conditions on what follows or precedes and no options.
-/

/-- A part of the source of an expression. -/
inductive RegexpToken where
  | one (set : CharSet)
  | anchor (expression : Regexp)
  | openGroup
  | closeGroup
  | bar
  | star
  | plus
  | optional
  | counted (least : Nat) (most : Option Nat)
  deriving Repr, DecidableEq

namespace RegexpToken

/-- A member of a character set in brackets: a character by its code point, or several characters. -/
inductive SetMember where
  | point (code : Nat)
  | several (set : CharSet)
  deriving Repr, DecidableEq

/-- The characters of a member. -/
def SetMember.toSet : SetMember → CharSet
  | .point code => .ofCodePoint code
  | .several set => set

/-- What has been read last of a character set in brackets, as long as it may belong to a range. -/
inductive LastMember where
  | absent
  | member (member : SetMember)
  | rangeFrom (member : SetMember)
  deriving Repr, DecidableEq

/-- A character set in brackets of which a part has been read. -/
structure OpenSet where
  negated : Bool
  members : List CharSet
  last : LastMember
  deriving Repr, DecidableEq

namespace OpenSet

/-- A set of which nothing but the bracket has been read. -/
def start (negated : Bool) : OpenSet :=
  ⟨negated, [], .absent⟩

/-- The member that a hyphen is. -/
def hyphen : SetMember := .point '-'.toNat

/-- All members that have been read, last one first. -/
def allMembers (openSet : OpenSet) : List CharSet :=
  match openSet.last with
  | .absent => openSet.members
  | .member member => member.toSet :: openSet.members
  | .rangeFrom member => hyphen.toSet :: member.toSet :: openSet.members

/-- The set with a further member, which may complete a range. -/
def add? (openSet : OpenSet) (member : SetMember) : Option OpenSet :=
  match openSet.last, member with
  | .rangeFrom (.point first), .point last =>
      if first ≤ last then
        some ⟨openSet.negated, .range (first, last) :: openSet.members, .absent⟩
      else
        none
  | .rangeFrom _, _ => none
  | _, _ => some ⟨openSet.negated, openSet.allMembers, .member member⟩

/-- The set with a hyphen, which may begin a range or be a member. -/
def addHyphen? (openSet : OpenSet) : Option OpenSet :=
  match openSet.last with
  | .member member => some ⟨openSet.negated, openSet.members, .rangeFrom member⟩
  | _ => openSet.add? hyphen

/-- The set that a closing bracket completes; directly after the opening one it is a member. -/
def close? (openSet : OpenSet) : Option CharSet :=
  match openSet.allMembers with
  | [] => none
  | member :: members =>
      let set := members.foldl (fun set member => .union member set) member
      some (if openSet.negated then .complement set else set)

end OpenSet

/--
What the scanner is reading: parts, or a set in brackets.  Characters that belong to what has been read already are
passed over first, one more than the number says.
-/
inductive Reading where
  | parts
  | set (openSet : OpenSet)
  | passing (others : Nat) (next : Reading)
  deriving Repr, DecidableEq

/-- What the scanner reads after a number of characters that are passed over. -/
def Reading.after : Nat → Reading → Reading
  | 0, next => next
  | others + 1, next => .passing others next

/-- The control character that an escape of one letter stands for. -/
def controlEscape? (c : Char) : Option Char :=
  match c with
  | 'a' => some '\x07'
  | 'f' => some '\x0c'
  | 'n' => some '\n'
  | 'r' => some '\r'
  | 't' => some '\t'
  | 'v' => some '\x0b'
  | _ => none

/-- The set that an escape of one letter stands for. -/
def classEscape? (c : Char) : Option CharSet :=
  match c with
  | 'w' => some .word
  | 'W' => some (.complement .word)
  | 'd' => some .digit
  | 'D' => some (.complement .digit)
  | 's' => some .blank
  | 'S' => some (.complement .blank)
  | _ => none

/-- What an escape of one letter, sign or mark stands for, inside and outside of brackets. -/
def signEscape? (c : Char) : Option SetMember :=
  match classEscape? c, controlEscape? c with
  | some set, _ => some (.several set)
  | none, some control => some (.point control.toNat)
  | none, none => if c.isAlphanum then none else some (.point c.toNat)

/-- The code point that a text begins with, in a fixed number of hexadecimal digits. -/
def hexPoint? (count : Nat) (text : Text) : Option Nat :=
  let digits := text.take count
  if digits.length = count then Text.hexNumber? digits else none

/-- The number of code points. -/
def codePoints : Nat := 0x110000

/-- The code point of an escape in hexadecimal digits, and the number of characters after the backslash. -/
def hexEscape? (text : Text) : Option (Nat × Nat) :=
  match text with
  | 'x' :: rest => (hexPoint? 2 rest).map fun point => (point, 3)
  | 'u' :: rest => (hexPoint? 4 rest).map fun point => (point, 5)
  | 'U' :: rest => ((hexPoint? 8 rest).filter (· < codePoints)).map fun point => (point, 9)
  | _ => none

/-- The octal digits that a text begins with, three at most. -/
def octalDigits (text : Text) : Text :=
  (text.take 3).takeWhile Text.isOctalDigit

/-- The largest code point of an escape in octal digits. -/
def largestOctalPoint : Nat := 0o377

/-- The code point of octal digits and their number, unless the code point is too large. -/
def octalPoint? (digits : Text) : Option (Nat × Nat) :=
  if Text.octalValue digits ≤ largestOctalPoint then some (Text.octalValue digits, digits.length) else none

/-- An escape in octal digits outside of brackets, which has three digits or begins with a zero. -/
def octalEscape? (text : Text) : Option (Nat × Nat) :=
  let digits := octalDigits text
  if digits.length = 3 ∨ digits.head? = some '0' then octalPoint? digits else none

/-- An escape in octal digits between brackets. -/
def octalEscapeInSet? (text : Text) : Option (Nat × Nat) :=
  let digits := octalDigits text
  if digits = [] then none else octalPoint? digits

/-- What a text after a backslash begins with, inside and outside of brackets, and its number of characters. -/
def commonEscape? (text : Text) : Option (SetMember × Nat) :=
  match hexEscape? text, text with
  | some (point, length), _ => some (.point point, length)
  | none, c :: _ => (signEscape? c).map fun member => (member, 1)
  | none, [] => none

/-- The place in a text that an escape of one letter stands for outside of brackets. -/
def placeEscape? (c : Char) : Option Regexp :=
  match c with
  | 'A' => some .textStart
  | 'Z' => some .textEnd
  | 'b' => some .wordBoundary
  | 'B' => some .insideWord
  | _ => none

/-- The part that a text after a backslash begins with outside of brackets, and its number of characters. -/
def escape? (text : Text) : Option (RegexpToken × Nat) :=
  match text.head?.bind placeEscape?, octalEscape? text with
  | some place, _ => some (.anchor place, 1)
  | none, some (point, length) => some (.one (.ofCodePoint point), length)
  | none, none => (commonEscape? text).map fun (member, length) => (.one member.toSet, length)

/--
The member that a text after a backslash begins with between brackets, where `b` stands for a backspace, and its
number of characters.
-/
def escapeInSet? (text : Text) : Option (SetMember × Nat) :=
  match text, octalEscapeInSet? text with
  | 'b' :: _, _ => some (.point 0x08, 1)
  | _, some (point, length) => some (.point point, length)
  | _, none => commonEscape? text

/--
The bounds in braces that a text begins with, and the number of characters up to the closing brace.  Without
bounds in this form an opening brace stands for itself.
-/
def bounds? (text : Text) : Option (Text × Option Text × Nat) :=
  let least := text.takeWhile Char.isDigit
  match text.dropWhile Char.isDigit with
  | '\x7d' :: _ => if least = [] then none else some (least, none, least.length + 1)
  | ',' :: rest =>
      let most := rest.takeWhile Char.isDigit
      match rest.dropWhile Char.isDigit with
      | '\x7d' :: _ => some (least, some most, least.length + most.length + 2)
      | _ => none
  | _ => none

/-- The mark of repetition for bounds, unless the upper bound is below the lower one. -/
def ofBounds? (least : Text) (most : Option Text) : Option RegexpToken :=
  let lower := Text.decimalValue least
  match most with
  | none => some (.counted lower (some lower))
  | some [] => some (.counted lower none)
  | some digits =>
      let upper := Text.decimalValue digits
      if upper < lower then none else some (.counted lower (some upper))

/-- The part that a character stands for by itself. -/
def ofChar (c : Char) : RegexpToken :=
  match c with
  | '.' => .one (.complement (.single '\n'))
  | '^' => .anchor .textStart
  | '$' => .anchor .lastLineEnd
  | '(' => .openGroup
  | ')' => .closeGroup
  | '|' => .bar
  | '*' => .star
  | '+' => .plus
  | '?' => .optional
  | _ => .one (.single c)

/-- The parts of a source, of which something has been read already. -/
def scanFrom : Reading → Text → Option (List RegexpToken)
  | .parts, [] => some []
  | .set _, [] => none
  | .passing _ _, [] => none
  | .passing others next, _ :: rest => scanFrom (.after others next) rest
  | .set openSet, ']' :: rest =>
      match openSet.close? with
      | some set => (scanFrom .parts rest).map (.one set :: ·)
      | none =>
          match openSet.add? (.point ']'.toNat) with
          | some larger => scanFrom (.set larger) rest
          | none => none
  | .set openSet, '-' :: rest =>
      match openSet.addHyphen? with
      | some larger => scanFrom (.set larger) rest
      | none => none
  | .set openSet, '\\' :: rest =>
      match escapeInSet? rest with
      | none => none
      | some (member, length) =>
          match openSet.add? member with
          | some larger => scanFrom (.after length (.set larger)) rest
          | none => none
  | .set openSet, c :: rest =>
      match openSet.add? (.point c.toNat) with
      | some larger => scanFrom (.set larger) rest
      | none => none
  | .parts, '(' :: '?' :: ':' :: rest => (scanFrom .parts rest).map (.openGroup :: ·)
  | .parts, '(' :: '?' :: _ => none
  | .parts, '[' :: '^' :: rest => scanFrom (.set (.start true)) rest
  | .parts, '[' :: rest => scanFrom (.set (.start false)) rest
  | .parts, '\\' :: rest =>
      match escape? rest with
      | some (token, length) => (scanFrom (.after length .parts) rest).map (token :: ·)
      | none => none
  | .parts, '\x7b' :: rest =>
      match bounds? rest with
      | none => (scanFrom .parts rest).map (.one (.single '\x7b') :: ·)
      | some (least, most, characters) =>
          match ofBounds? least most with
          | some token => (scanFrom (.after characters .parts) rest).map (token :: ·)
          | none => none
  | .parts, c :: rest => (scanFrom .parts rest).map (ofChar c :: ·)

/-- The parts of a source. -/
def scan (source : Text) : Option (List RegexpToken) :=
  scanFrom .parts source

end RegexpToken

end AdFilter
