import AdFilter.Json.Value

namespace AdFilter

/-!
# Writing JSON values

Values are written in ASCII, other characters as escapes of their UTF-16 units, either on one line or with a line
for every item and field.  They are put out piece by piece; an integer that is not written breaks this off, and what has
been put out before it stays.
-/

namespace Json

/-- How the parts of arrays and objects are set apart. -/
inductive Layout where
  | singleLine
  | indented (width : Nat)
  deriving Repr, DecidableEq

/-- What stands before an item or a field at a depth, and before the bracket that closes it. -/
def Layout.lineBreak (layout : Layout) (depth : Nat) : Text :=
  match layout with
  | .singleLine => []
  | .indented width => '\n' :: List.replicate (width * depth) ' '

/-- A UTF-16 unit as an escape. -/
def unitEscape (unit : Nat) : Text :=
  ['\\', 'u'] ++ Text.hexDigits 4 unit

/-- A character as it stands in a string. -/
def escapedChar (c : Char) : Text :=
  if c = '"' ∨ c = '\\' then
    ['\\', c]
  else if c = '\n' then
    ['\\', 'n']
  else if c = '\r' then
    ['\\', 'r']
  else if c = '\t' then
    ['\\', 't']
  else if c = '\x08' then
    ['\\', 'b']
  else if c = '\x0c' then
    ['\\', 'f']
  else if 0x20 ≤ c.toNat ∧ c.toNat < 0x7F then
    [c]
  else if c.toNat < 0x10000 then
    unitEscape c.toNat
  else
    unitEscape (0xD800 + (c.toNat - 0x10000) / 0x400) ++ unitEscape (0xDC00 + (c.toNat - 0x10000) % 0x400)

/-- A string as it is written. -/
def writtenString (value : Text) : Text :=
  ['"'] ++ value.flatMap escapedChar ++ ['"']

mutual

/--
The pieces in which a value is put out at a depth.  A value without parts makes one piece with what stands before it, so
that an integer that is not written takes that away too.
-/
def pieces (layout : Layout) (depth : Nat) (before : Text) : Json → List (Except NumeralError Text)
  | .null => [.ok (before ++ "null".toList)]
  | .bool true => [.ok (before ++ "true".toList)]
  | .bool false => [.ok (before ++ "false".toList)]
  | .integer value => [(Numeral.write value).map (before ++ ·)]
  | .decimal written => [.ok (before ++ written)]
  | .string value => [.ok (before ++ writtenString value)]
  | .array [] => [.ok (before ++ ['[', ']'])]
  | .array (item :: items) =>
      [.ok before] ++ item.pieces layout (depth + 1) (['['] ++ layout.lineBreak (depth + 1)) ++
        itemPieces layout (depth + 1) items ++ [.ok (layout.lineBreak depth ++ [']'])]
  | .object [] => [.ok (before ++ ['\x7b', '\x7d'])]
  | .object ((name, value) :: fields) =>
      [.ok (before ++ ['\x7b'] ++ layout.lineBreak (depth + 1) ++ writtenString name ++ [':', ' '])] ++
        value.pieces layout (depth + 1) [] ++ fieldPieces layout (depth + 1) fields ++
        [.ok (layout.lineBreak depth ++ ['\x7d'])]

/-- The pieces of the items of an array after the first one. -/
def itemPieces (layout : Layout) (depth : Nat) : List Json → List (Except NumeralError Text)
  | [] => []
  | item :: items =>
      item.pieces layout depth ([','] ++ layout.lineBreak depth) ++ itemPieces layout depth items

/-- The pieces of the fields of an object after the first one. -/
def fieldPieces (layout : Layout) (depth : Nat) : List (Text × Json) → List (Except NumeralError Text)
  | [] => []
  | (name, value) :: fields =>
      [.ok ([','] ++ layout.lineBreak depth ++ writtenString name ++ [':', ' '])] ++
        value.pieces layout depth [] ++ fieldPieces layout depth fields

end

/-- What has been written, and what has broken the writing off, if anything has. -/
structure Writing where
  text : Text
  failure? : Option NumeralError
  deriving Repr, DecidableEq

/-- The writing of pieces one after the other, up to the first one that is refused. -/
def Writing.ofPieces : List (Except NumeralError Text) → Writing
  | [] => ⟨[], none⟩
  | .ok piece :: later =>
      let rest := ofPieces later
      ⟨piece ++ rest.text, rest.failure?⟩
  | .error failure :: _ => ⟨[], some failure⟩

/-- The writing of a value. -/
def written (layout : Layout) (value : Json) : Writing :=
  .ofPieces (value.pieces layout 0 [])

end Json

end AdFilter
