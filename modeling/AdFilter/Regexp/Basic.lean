import AdFilter.Text.Case
import AdFilter.Text.CharRange
import AdFilter.Text.Line
import AdFilter.Text.Word

namespace AdFilter

/-!
# Regular expressions

An expression leads from a position of a text to further positions.  Whether it occurs in a text is decided for all
positions at once: the answer does not depend on the order in which alternatives are tried.
-/

/-- Whether the two cases of a letter are different characters to an expression. -/
inductive CaseRule where
  | exact
  | ignored
  deriving Repr, DecidableEq

/-- A set of characters. -/
inductive CharSet where
  | single (c : Char)
  | range (points : CharRange)
  | word
  | digit
  | blank
  | complement (set : CharSet)
  | union (first second : CharSet)
  deriving Repr, DecidableEq

/-- Whether a character belongs to a set. -/
def CharSet.holds (rule : CaseRule) : CharSet → Char → Bool
  | .single expected, c =>
      match rule with
      | .exact => c == expected
      | .ignored => Text.sameLetter expected c
  | .range points, c =>
      match rule with
      | .exact => points.holds c
      | .ignored => (Text.sameLetters c).any fun same => points.holds same
  | .word, c => Text.isWordChar c
  | .digit, c => Text.isDecimalDigit c
  | .blank, c => Text.isBlank c
  | .complement set, c => !set.holds rule c
  | .union first second, c => first.holds rule c || second.holds rule c

/-- The set of the character with a code point; no character has that of a surrogate. -/
def CharSet.ofCodePoint (point : Nat) : CharSet :=
  if point.isValidChar then .single (Char.ofNat point) else .range (point, point)

/-- A regular expression. -/
inductive Regexp where
  | empty
  | one (set : CharSet)
  | textStart
  | textEnd
  | lastLineEnd
  | wordBoundary
  | insideWord
  | notBefore (set : CharSet)
  | seq (first second : Regexp)
  | either (first second : Regexp)
  | star (body : Regexp)
  deriving Repr, DecidableEq

namespace Positions

/-!
The positions of a text are the numbers of characters before them.  Sets of positions are lists in increasing order.
-/

/-- The set with one position more. -/
def insert (position : Nat) : List Nat → List Nat
  | [] => [position]
  | first :: others =>
      if position < first then
        position :: first :: others
      else if position = first then
        first :: others
      else
        first :: insert position others

/-- The positions of both sets. -/
def union (first second : List Nat) : List Nat :=
  first.foldr insert second

/--
The positions of a set together with those that repeated moves reach from them.  Moves never go back, so the
first position that is left is done with after one step.
-/
def closure (move : List Nat → List Nat) : Nat → List Nat → List Nat
  | 0, positions => positions
  | _ + 1, [] => []
  | steps + 1, first :: others =>
      first :: closure move steps (union ((move [first]).filter (first < ·)) others)

/-- The position after the character at a position, if that is in the set. -/
def over? (rule : CaseRule) (set : CharSet) (text : Array Char) (position : Nat) : Option Nat :=
  match text[position]? with
  | some c => if set.holds rule c then some (position + 1) else none
  | none => none

/-- Whether a position is the last one of a text, or followed by nothing but a line feed. -/
def isLastLineEnd (text : Array Char) (position : Nat) : Bool :=
  position = text.size || (position + 1 = text.size && text[position]? = some '\n')

/-- Whether there is a word character before a position. -/
def followsWord (text : Array Char) (position : Nat) : Bool :=
  match position with
  | 0 => false
  | before + 1 => text[before]?.any Text.isWordChar

/-- Whether there is a word character after a position. -/
def precedesWord (text : Array Char) (position : Nat) : Bool :=
  text[position]?.any Text.isWordChar

/-- Whether there is a word character on exactly one side of a position. -/
def isWordBoundary (text : Array Char) (position : Nat) : Bool :=
  followsWord text position != precedesWord text position

end Positions

namespace Regexp

/-- The positions of a text to which an expression leads from the positions of a set. -/
def advance (rule : CaseRule) (text : Array Char) : Regexp → List Nat → List Nat
  | .empty, positions => positions
  | .one set, positions => positions.filterMap (Positions.over? rule set text)
  | .textStart, positions => positions.filter (· = 0)
  | .textEnd, positions => positions.filter (· = text.size)
  | .lastLineEnd, positions => positions.filter (Positions.isLastLineEnd text)
  | .wordBoundary, positions => positions.filter (Positions.isWordBoundary text)
  | .insideWord, positions =>
      positions.filter fun position => text.size ≠ 0 && !Positions.isWordBoundary text position
  | .notBefore set, positions =>
      positions.filter fun position => (Positions.over? rule set text position).isNone
  | .seq first second, positions => second.advance rule text (first.advance rule text positions)
  | .either first second, positions =>
      Positions.union (first.advance rule text positions) (second.advance rule text positions)
  | .star body, positions => Positions.closure (body.advance rule text) (text.size + 1) positions

/-- Whether an expression occurs in a text. -/
def occursIn (rule : CaseRule) (expression : Regexp) (text : Text) : Bool :=
  expression.advance rule text.toArray (List.range (text.length + 1)) ≠ []

/-- One expression after the other. -/
def sequence : List Regexp → Regexp
  | [] => .empty
  | [expression] => expression
  | expression :: others => .seq expression (sequence others)

/-- Any of several expressions. -/
def choice : List Regexp → Regexp
  | [] => .empty
  | [expression] => expression
  | expression :: others => .either expression (choice others)

/-- An expression that may be left out. -/
def optional (body : Regexp) : Regexp :=
  .either body .empty

/-- An expression up to a number of times. -/
def upTo (body : Regexp) : Nat → Regexp
  | 0 => .empty
  | times + 1 => optional (.seq body (upTo body times))

/-- An expression a number of times. -/
def times (body : Regexp) (count : Nat) : Regexp :=
  sequence (List.replicate count body)

/-- An expression at least a number of times, and at most another number of times if there is one. -/
def repeated (body : Regexp) (least : Nat) (most : Option Nat) : Regexp :=
  match most with
  | none => .seq (times body least) (.star body)
  | some most => .seq (times body least) (upTo body (most - least))

/--
Characters of a set, at least a number of them and at most another number if there is one, but no fewer than
there are: the run ends where the set ends, unless it has reached its greatest length.
-/
def wholeRun (set : CharSet) (least : Nat) (most : Option Nat) : Regexp :=
  match most with
  | none => .seq (repeated (.one set) least none) (.notBefore set)
  | some most =>
      if most ≤ least then
        times (.one set) most
      else
        .either (times (.one set) most) (.seq (repeated (.one set) least (some (most - 1))) (.notBefore set))

end Regexp

end AdFilter
