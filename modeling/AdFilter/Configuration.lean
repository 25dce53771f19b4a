import AdFilter.Json.Parser
import AdFilter.Json.Printer
import AdFilter.Text.Case
import AdFilter.Text.Line

namespace AdFilter

/-!
# Settings for reading lists

A configuration says what to do with unknown options and how many rules to keep in a cache.  It is kept in a JSON
file; the environment may override what it says of unknown options.
-/

/-- What to do with a rule that has unknown options. -/
inductive OptionPolicy where
  | ignore
  | reject
  deriving Repr, DecidableEq

/-- How lists are read.  The size of the cache is not looked at before a cache is made of it. -/
structure Configuration where
  policy : OptionPolicy
  cacheSize : Json
  deriving Repr

/-- Why there is no configuration. -/
inductive ConfigError where
  | unknownPolicy (value : Json)
  | notJson
  | notObject
  | integer (failure : NumeralError)
  deriving Repr

/-- The wording of the failure to make a configuration, where it has one. -/
def ConfigError.message? : ConfigError → Option Text
  | .unknownPolicy value =>
      match value.shown with
      | .ok shown => some ("unknown_options must be one of ('ignore', 'reject'), got ".toList ++ shown)
      | .error failure => some failure.message
  | .notJson => none
  | .notObject => none
  | .integer failure => some failure.message

namespace OptionPolicy

/-- The name of a policy in files. -/
def name : OptionPolicy → Text
  | .ignore => "ignore".toList
  | .reject => "reject".toList

/-- The policy with a name. -/
def ofName? (name : Text) : Option OptionPolicy :=
  if name = "ignore".toList then
    some .ignore
  else if name = "reject".toList then
    some .reject
  else
    none

/-- The policy that a value names. -/
def ofJson? : Json → Option OptionPolicy
  | .string name => ofName? name
  | _ => none

/-- Whether unknown options are refused. -/
def isStrict (policy : OptionPolicy) : Bool :=
  policy = .reject

end OptionPolicy

namespace Configuration

/-- The configuration that is used where there is none. -/
def standard : Configuration :=
  ⟨.ignore, .null⟩

/-- Whether unknown options are refused. -/
def isStrict (config : Configuration) : Bool :=
  config.policy.isStrict

/-- The name of the field for the policy. -/
def policyField : Text := "unknown_options".toList

/-- The name of the field for the size of the cache. -/
def cacheSizeField : Text := "cache_size".toList

/-- The configuration of an object; missing fields are those of the standard one. -/
def ofJson (settings : Json) : Except ConfigError Configuration :=
  let policyValue := (settings.field? policyField).getD (.string OptionPolicy.ignore.name)
  match OptionPolicy.ofJson? policyValue with
  | some policy => .ok ⟨policy, (settings.field? cacheSizeField).getD .null⟩
  | none => .error (.unknownPolicy policyValue)

/-- The configuration that a file holds. -/
def ofFile (content : Text) : Except ConfigError Configuration :=
  match Json.parse content with
  | .error .malformed => .error .notJson
  | .error (.integer failure) => .error (.integer failure)
  | .ok (.object fields) => ofJson (.object fields)
  | .ok _ => .error .notObject

/-- The configuration that a file holds, or the standard one if there is no file. -/
def load (file : Option Text) : Except ConfigError Configuration :=
  match file with
  | none => .ok standard
  | some content => ofFile content

/-- The writing of a configuration. -/
def save (config : Configuration) : Json.Writing :=
  Json.written (.indented 2)
    (.object [(policyField, .string config.policy.name), (cacheSizeField, config.cacheSize)])

/--
What comes of saving a configuration to a file: the text that the file then holds, and what has broken the saving off.  The
file is emptied before anything is written, so nothing is left of what it held; when the saving is broken off, it is cut off.
-/
def saveTo (config : Configuration) (_previous : Option Text) : Json.Writing :=
  config.save

/-- The policy that a variable of the environment names, between blanks and in any letter case. -/
def policyNamedBy? (override : Option Text) : Option OptionPolicy :=
  override.bind fun value => OptionPolicy.ofName? (Text.lower (Text.strip value))

/-- The policy to follow: that of the environment, or else that of the configuration. -/
def effectivePolicy (config : Configuration) (override : Option Text) : OptionPolicy :=
  (policyNamedBy? override).getD config.policy

/-- The policy to follow, with the configuration that is given or else the one that a file holds. -/
def effectivePolicyFrom (given : Option Configuration) (file override : Option Text) :
    Except ConfigError OptionPolicy :=
  match given with
  | some config => .ok (config.effectivePolicy override)
  | none => (load file).map fun config => config.effectivePolicy override

end Configuration

end AdFilter
