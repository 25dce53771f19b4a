import AdFilter.Json.Token

namespace AdFilter

/-!
# Reading JSON values

The tokens of a text are read from left to right, and the first one that does not fit says why the text is not read.  The
arrays and objects that have been opened and not yet closed are kept innermost first.
-/

/-- Why a text is not read as a value: it is none, or it has an integer that is not read. -/
inductive JsonError where
  | malformed
  | integer (failure : NumeralError)
  deriving Repr, DecidableEq

namespace Json

/-- An array or object that is still open, with its parts so far, last one first. -/
inductive Opened where
  | array (items : List Json)
  | object (fields : List (Text × Json)) (name : Text)
  deriving Repr

/-- What may follow, and what is still open around it. -/
inductive Progress where
  | value (around : List Opened)
  | firstItem (around : List Opened)
  | firstField (around : List Opened)
  | field (fields : List (Text × Json)) (around : List Opened)
  | colon (fields : List (Text × Json)) (name : Text) (around : List Opened)
  | complete (value : Json) (around : List Opened)
  deriving Repr

/-- Begin a value.  Only here is an integer looked for. -/
def Progress.beginValue (around : List Opened) : JsonToken → Except JsonError Progress
  | .openArray => .ok (.firstItem around)
  | .openObject => .ok (.firstField around)
  | .leaf parsed => .ok (.complete parsed around)
  | .refused failure => .error (.integer failure)
  | _ => .error .malformed

/-- Read the name of a field. -/
def Progress.beginField (fields : List (Text × Json)) (around : List Opened) :
    JsonToken → Except JsonError Progress
  | .leaf (.string name) => .ok (.colon fields name around)
  | _ => .error .malformed

/-- Read one token. -/
def Progress.step : Progress → JsonToken → Except JsonError Progress
  | .value around, token => beginValue around token
  | .firstItem around, .closeArray => .ok (.complete (.array []) around)
  | .firstItem around, token => beginValue (.array [] :: around) token
  | .firstField around, .closeObject => .ok (.complete (.object []) around)
  | .firstField around, token => beginField [] around token
  | .field fields around, token => beginField fields around token
  | .colon fields name around, .colon => .ok (.value (.object fields name :: around))
  | .complete parsed (.array items :: around), .comma => .ok (.value (.array (parsed :: items) :: around))
  | .complete parsed (.array items :: around), .closeArray =>
      .ok (.complete (.array (parsed :: items).reverse) around)
  | .complete parsed (.object fields name :: around), .comma =>
      .ok (.field ((name, parsed) :: fields) around)
  | .complete parsed (.object fields name :: around), .closeObject =>
      .ok (.complete (ofFields ((name, parsed) :: fields).reverse) around)
  | _, _ => .error .malformed

/-- The value that tokens make up. -/
def ofTokens (tokens : List JsonToken) : Except JsonError Json :=
  match tokens.foldlM Progress.step (.value []) with
  | .ok (.complete parsed []) => .ok parsed
  | .ok _ => .error .malformed
  | .error failure => .error failure

/-- The value of a JSON text. -/
def parse (text : Text) : Except JsonError Json :=
  ofTokens (JsonToken.scan text)

end Json

end AdFilter
