import AdFilter.Text.Digits

namespace AdFilter

/-!
# Numerals

Integers are written and read in decimal.  As the work grows faster than the number of digits, integers with more than a
fixed number of them are refused, whichever way they are converted.
-/

/-- An integer is not converted because it has too many digits; before one is written, they are not counted. -/
inductive NumeralError where
  | tooLongToWrite
  | tooLongToRead (digits : Nat)
  deriving Repr, DecidableEq

namespace Numeral

/-- The most digits of an integer that is converted. -/
def digitLimit : Nat := 4300

/-- An integer in decimal; a minus sign is no digit. -/
def write (value : Int) : Except NumeralError Text :=
  let digits := Nat.toDigits 10 value.natAbs
  if digits.length ≤ digitLimit then
    .ok (if value < 0 then '-' :: digits else digits)
  else
    .error .tooLongToWrite

/-- The natural number that decimal digits are read as. -/
def read (digits : Text) : Except NumeralError Nat :=
  if digits.length ≤ digitLimit then
    .ok (Text.decimalValue digits)
  else
    .error (.tooLongToRead digits.length)

end Numeral

/-- The wording of the failure to convert an integer. -/
def NumeralError.message (failure : NumeralError) : Text :=
  let limit := (toString Numeral.digitLimit).toList
  let found :=
    match failure with
    | .tooLongToWrite => []
    | .tooLongToRead digits => ": value has ".toList ++ (toString digits).toList ++ " digits".toList
  "Exceeds the limit (".toList ++ limit ++ " digits) for integer string conversion".toList ++ found ++
    "; use sys.set_int_max_str_digits() to increase the limit".toList

end AdFilter
