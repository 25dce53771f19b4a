import AdFilter.Text.Basic

namespace AdFilter

/-!
# Option clauses

The options of a rule follow a dollar sign: `$key1,~key2,key3=value`.  A text is cut at the first dollar sign that is
followed, up to the end, by well-formed options.  A line feed at the very end is dropped unless it belongs to a value.
-/

namespace OptionClause

/-- Whether a character may stand in the key of an option. -/
def isKeyChar (c : Char) : Bool :=
  c.isAlphanum || c = '_' || c = '-'

/-- An option without the tilde in front. -/
def withoutTilde : Text → Text
  | '~' :: rest => rest
  | option => option

/-- The key of an option without tilde, that is, what its first characters that may stand in a key make up. -/
def keyPart (option : Text) : Text :=
  option.takeWhile isKeyChar

/-- What follows the key of an option without tilde. -/
def valuePart (option : Text) : Text :=
  option.dropWhile isKeyChar

/-- Whether a text without commas is an option: a key, perhaps after a tilde and before a value. -/
def isOption (text : Text) : Bool :=
  keyPart (withoutTilde text) ≠ [] &&
    (valuePart (withoutTilde text) = [] || (valuePart (withoutTilde text)).head? = some '=')

/-- The last option of a clause, without the line feed after a key that has no value. -/
def lastOption? (text : Text) : Option Text :=
  if isOption text then
    some text
  else if valuePart (withoutTilde text) = ['\n'] ∧ isOption text.dropLast then
    some text.dropLast
  else
    none

/-- The options of a clause that has been split at its commas. -/
def ofPieces? : List Text → Option (List Text)
  | [] => none
  | [last] => (lastOption? last).map fun option => [option]
  | piece :: pieces => if isOption piece then (ofPieces? pieces).map (piece :: ·) else none

/-- The options of a clause, which is the text after a dollar sign. -/
def options? (clause : Text) : Option (List Text) :=
  ofPieces? (List.splitOn ',' clause)

/-- The pattern and the options of the text of a rule; without a clause all of the text is pattern. -/
def split : Text → Text × List Text
  | [] => ([], [])
  | c :: rest =>
      match if c = '$' then options? rest else none with
      | some options => ([], options)
      | none => (c :: (split rest).1, (split rest).2)

end OptionClause

end AdFilter
