namespace AdFilter

/-!
# Ranges of characters

A property of characters is given by the code point ranges that have it.
-/

/-- The first and the last code point of a range of characters. -/
abbrev CharRange := Nat × Nat

namespace CharRange

/-- Whether a character lies in a range. -/
def holds (range : CharRange) (c : Char) : Bool :=
  range.1 ≤ c.toNat && c.toNat ≤ range.2

/-- Whether a character lies in one of the ranges. -/
def anyHolds (ranges : List CharRange) (c : Char) : Bool :=
  ranges.any fun range => range.holds c

end CharRange

end AdFilter
