import AdFilter.Text.Basic

namespace AdFilter

/-!
# Blanks and lines

Blanks are the white space characters of Unicode.  A line ends at a line feed, a carriage return, both in
this order, or at one of the other characters that Unicode or ASCII gives for ending lines, paragraphs and records.
-/

namespace Text

/-- Whether a character is white space. -/
def isBlank (c : Char) : Bool :=
  let point := c.toNat
  (0x09 ≤ point && point ≤ 0x0D) || (0x1C ≤ point && point ≤ 0x20) || point == 0x85 || point == 0xA0 ||
    point == 0x1680 || (0x2000 ≤ point && point ≤ 0x200A) || point == 0x2028 || point == 0x2029 ||
    point == 0x202F || point == 0x205F || point == 0x3000

/-- Whether a character ends a line. -/
def isLineEnd (c : Char) : Bool :=
  let point := c.toNat
  (0x0A ≤ point && point ≤ 0x0D) || (0x1C ≤ point && point ≤ 0x1E) || point == 0x85 || point == 0x2028 ||
    point == 0x2029

/-- The lines of a text without the characters that end them. -/
def lines : Text → List Text
  | [] => []
  | '\r' :: '\n' :: rest => [] :: lines rest
  | c :: rest =>
      if isLineEnd c then
        [] :: lines rest
      else
        match lines rest with
        | [] => [[c]]
        | line :: others => (c :: line) :: others

/-- The text without blanks at its ends. -/
def strip (text : Text) : Text :=
  trim isBlank text

end Text

end AdFilter
