import AdFilter.Text.Basic
import AdFilter.Text.WordTable

namespace AdFilter

/-!
# Word characters

Letters, numeric characters and the underscore make up words.
-/

namespace Text

/-- Whether a character is a letter, a numeric character or the underscore. -/
def isWordChar (c : Char) : Bool :=
  if c.toNat < 0x80 then
    c.isAlphanum || c == '_'
  else
    CharRange.anyHolds wordRanges c

/-- Whether a character is a decimal digit of some script. -/
def isDecimalDigit (c : Char) : Bool :=
  if c.toNat < 0x80 then
    c.isDigit
  else
    CharRange.anyHolds decimalDigitRanges c

end Text

end AdFilter
