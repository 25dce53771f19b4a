import AdFilter.Text.Digits
import AdFilter.Text.UnprintableTable

namespace AdFilter

/-!
# Quoted texts

Messages show a text between quotation marks.  The marks are single, unless the text has single marks and no
double ones.  A backslash, the mark itself and every unprintable character are escaped.
-/

namespace Text

/-- Whether a character is shown as it is. -/
def isPrintable (c : Char) : Bool :=
  if c.toNat < 0x80 then
    0x20 ≤ c.toNat && c.toNat < 0x7F
  else
    !CharRange.anyHolds unprintableRanges c

/-- An unprintable character by its code point, in the shortest of three forms. -/
def codePointEscape (c : Char) : Text :=
  let point := c.toNat
  if point < 0x100 then
    ['\\', 'x'] ++ hexDigits 2 point
  else if point < 0x10000 then
    ['\\', 'u'] ++ hexDigits 4 point
  else
    ['\\', 'U'] ++ hexDigits 8 point

/-- A character as it stands between quotation marks. -/
def quotedChar (mark c : Char) : Text :=
  if c = mark ∨ c = '\\' then
    ['\\', c]
  else if c = '\n' then
    ['\\', 'n']
  else if c = '\r' then
    ['\\', 'r']
  else if c = '\t' then
    ['\\', 't']
  else if isPrintable c then
    [c]
  else
    codePointEscape c

/-- The mark that a text is quoted with. -/
def quotationMark (text : Text) : Char :=
  if text.elem '\'' && !text.elem '"' then '"' else '\''

/-- A text between quotation marks. -/
def quoted (text : Text) : Text :=
  let mark := quotationMark text
  mark :: text.flatMap (quotedChar mark) ++ [mark]

end Text

end AdFilter
