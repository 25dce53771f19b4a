import AdFilter.Json.Value

namespace AdFilter

/-!
# JSON tokens

A JSON text is a sequence of punctuation marks and of values without parts.  Numbers and the three named
values are words: runs of letters, digits, signs and points.  Where a text cannot be read any further, or has an integer
that is not read, there is a token that says so: whether it matters depends on the tokens before it.
-/

/-- A punctuation mark, a value without parts, an integer that is not read, or the place where no token can be read. -/
inductive JsonToken where
  | openArray
  | closeArray
  | openObject
  | closeObject
  | comma
  | colon
  | leaf (value : Json)
  | refused (failure : NumeralError)
  | unreadable
  deriving Repr

namespace JsonToken

/-- What the scanner is reading; what has been read of it is kept last character first. -/
inductive Reading where
  | nothing
  | word (read : Text)
  | string (read : Text) (highSurrogate : Option Nat)
  deriving Repr, DecidableEq

/-- Whether a character is a blank between tokens. -/
def isBlank (c : Char) : Bool :=
  c = ' ' || c = '\t' || c = '\n' || c = '\r'

/-- Whether a character may stand in a word. -/
def isWordChar (c : Char) : Bool :=
  c.isAlphanum || c = '+' || c = '-' || c = '.'

/-- Drop a leading minus sign. -/
def withoutMinus : Text → Text
  | '-' :: digits => digits
  | digits => digits

/-- Whether digits are an integer without needless zeros in front. -/
def isWholePart (digits : Text) : Bool :=
  digits ≠ [] && digits.all Char.isDigit && (digits = ['0'] || digits.head? ≠ some '0')

/-- Whether a text is an exponent with its mark, or empty. -/
def isExponent (text : Text) : Bool :=
  match text with
  | [] => true
  | mark :: sign :: digits =>
      (mark = 'e' || mark = 'E') &&
        if sign = '+' || sign = '-' then
          digits ≠ [] && digits.all Char.isDigit
        else
          (sign :: digits).all Char.isDigit
  | _ => false

/-- Whether a text is a fraction with its point and an exponent, either of which may be absent. -/
def isFractionAndExponent (text : Text) : Bool :=
  match text with
  | '.' :: rest =>
      rest.takeWhile Char.isDigit ≠ [] && isExponent (rest.dropWhile Char.isDigit)
  | _ => isExponent text

/-- Whether a text has a digit after its sign, if it has one. -/
def beginsExponentDigits (text : Text) : Bool :=
  match text with
  | [] => false
  | first :: rest =>
      first.isDigit || ((first = '+' || first = '-') && rest.head?.any Char.isDigit)

/-- Whether a text begins with a fraction or an exponent, whatever comes after that. -/
def beginsFractionOrExponent (text : Text) : Bool :=
  match text with
  | [] => false
  | mark :: rest =>
      (mark = '.' && rest.head?.any Char.isDigit) || ((mark = 'e' || mark = 'E') && beginsExponentDigits rest)

/-- The number that a word stands for.  An integer is converted before what follows its digits is looked at. -/
def number (word : Text) : JsonToken :=
  let unsigned := withoutMinus word
  let whole := unsigned.takeWhile Char.isDigit
  let rest := unsigned.dropWhile Char.isDigit
  if !isWholePart whole then
    .unreadable
  else if beginsFractionOrExponent rest then
    if isFractionAndExponent rest then .leaf (.decimal word) else .unreadable
  else
    match Numeral.read whole with
    | .error failure => .refused failure
    | .ok magnitude =>
        if rest = [] then
          .leaf (.integer (if unsigned = word then magnitude else -magnitude))
        else
          .unreadable

/-- The value that a word stands for. -/
def ofWord (word : Text) : JsonToken :=
  if word = "null".toList then
    .leaf .null
  else if word = "true".toList then
    .leaf (.bool true)
  else if word = "false".toList then
    .leaf (.bool false)
  else if word = "NaN".toList ∨ word = "Infinity".toList ∨ word = "-Infinity".toList then
    .leaf (.decimal word)
  else
    number word

/-- The tokens that end with a character between words and strings, and what is read after it. -/
def atChar? (c : Char) : Option (List JsonToken × Reading) :=
  match c with
  | '[' => some ([.openArray], .nothing)
  | ']' => some ([.closeArray], .nothing)
  | '\x7b' => some ([.openObject], .nothing)
  | '\x7d' => some ([.closeObject], .nothing)
  | ',' => some ([.comma], .nothing)
  | ':' => some ([.colon], .nothing)
  | '"' => some ([], .string [] none)
  | _ =>
      if isBlank c then
        some ([], .nothing)
      else if isWordChar c then
        some ([], .word [c])
      else
        none

/-- The character that an escape of one letter stands for. -/
def simpleEscape? (c : Char) : Option Char :=
  match c with
  | '"' => some '"'
  | '\\' => some '\\'
  | '/' => some '/'
  | 'b' => some '\x08'
  | 'f' => some '\x0c'
  | 'n' => some '\n'
  | 'r' => some '\r'
  | 't' => some '\t'
  | _ => none

/-- What stands in a string for half of a surrogate pair. -/
def replacement : Char := '\uFFFD'

/-- A string that has been read so far, with the half of a pair that nothing completed. -/
def settled (read : Text) : Option Nat → Text
  | none => read
  | some _ => replacement :: read

/-- A string that has been read so far and goes on with a UTF-16 unit. -/
def afterUnit (read : Text) (highSurrogate : Option Nat) (unit : Nat) : Reading :=
  if 0xD800 ≤ unit ∧ unit < 0xDC00 then
    .string (settled read highSurrogate) (some unit)
  else if 0xDC00 ≤ unit ∧ unit < 0xE000 then
    match highSurrogate with
    | some high => .string (Char.ofNat (0x10000 + (high - 0xD800) * 0x400 + (unit - 0xDC00)) :: read) none
    | none => .string (replacement :: read) none
  else
    .string (Char.ofNat unit :: settled read highSurrogate) none

/-- The tokens of a text, of which something has been read already. -/
def scanFrom : Reading → Text → List JsonToken
  | .nothing, [] => []
  | .word read, [] => [ofWord read.reverse]
  | .string _ _, [] => [.unreadable]
  | .nothing, c :: rest =>
      match atChar? c with
      | none => [.unreadable]
      | some (tokens, reading) => tokens ++ scanFrom reading rest
  | .word read, c :: rest =>
      if isWordChar c then
        scanFrom (.word (c :: read)) rest
      else
        match atChar? c with
        | none => [ofWord read.reverse, .unreadable]
        | some (tokens, reading) => ofWord read.reverse :: (tokens ++ scanFrom reading rest)
  | .string read high, '"' :: rest =>
      .leaf (.string (settled read high).reverse) :: scanFrom .nothing rest
  | .string read high, '\\' :: 'u' :: first :: second :: third :: fourth :: rest =>
      match Text.hexNumber? [first, second, third, fourth] with
      | some unit => scanFrom (afterUnit read high unit) rest
      | none => [.unreadable]
  | .string read high, '\\' :: c :: rest =>
      match simpleEscape? c with
      | some escaped => scanFrom (.string (escaped :: settled read high) none) rest
      | none => [.unreadable]
  | .string read high, c :: rest =>
      if c.toNat < 0x20 ∨ c = '\\' then
        [.unreadable]
      else
        scanFrom (.string (c :: settled read high) none) rest

/-- The tokens of a text, up to where it cannot be read any further. -/
def scan (text : Text) : List JsonToken :=
  scanFrom .nothing text

end JsonToken

end AdFilter
