import AdFilter.TextMap
import AdFilter.Text.Numeral
import AdFilter.Text.Quoted

namespace AdFilter

/-!
# JSON values

The values of a JSON text.  An integer is kept as a number of any size, every other number as it is written.
The fields of an object have different names.
-/

/-- A JSON value. -/
inductive Json where
  | null
  | bool (value : Bool)
  | integer (value : Int)
  | decimal (written : Text)
  | string (value : Text)
  | array (items : List Json)
  | object (fields : List (Text × Json))
  deriving Repr

namespace Json

/-- The object with the given fields, in which a later field of the same name overrides an earlier one. -/
def ofFields (fields : List (Text × Json)) : Json :=
  .object (TextMap.ofList fields).entries

/-- The value of a field of an object. -/
def field? (name : Text) : Json → Option Json
  | .object fields => fields.lookup name
  | _ => none

mutual

/-- A value as messages show it, unless it has an integer that is not written. -/
def shown : Json → Except NumeralError Text
  | .null => .ok "None".toList
  | .bool true => .ok "True".toList
  | .bool false => .ok "False".toList
  | .integer value => Numeral.write value
  | .decimal written => .ok written
  | .string value => .ok (Text.quoted value)
  | .array items => do
      let inside ← shownItems items
      return ['['] ++ inside ++ [']']
  | .object fields => do
      let inside ← shownFields fields
      return ['\x7b'] ++ inside ++ ['\x7d']

/-- The items of an array as messages show them. -/
def shownItems : List Json → Except NumeralError Text
  | [] => .ok []
  | [item] => item.shown
  | item :: items => do
      let first ← item.shown
      let others ← shownItems items
      return first ++ [',', ' '] ++ others

/-- The fields of an object as messages show them. -/
def shownFields : List (Text × Json) → Except NumeralError Text
  | [] => .ok []
  | [(name, value)] => do
      let first ← value.shown
      return Text.quoted name ++ [':', ' '] ++ first
  | (name, value) :: fields => do
      let first ← value.shown
      let others ← shownFields fields
      return Text.quoted name ++ [':', ' '] ++ first ++ [',', ' '] ++ others

end

end Json

end AdFilter
