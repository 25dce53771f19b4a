import AdFilter.Json.Value
import AdFilter.Rule.Parser

namespace AdFilter

/-!
# Caches of rules

Lists repeat many rules.  A cache keeps the rules of texts that have been read, the least recently used first.  A cache
of limited size drops the rules that have not been used for the longest time.
-/

/-- The rules that have been read, oldest use first, and the largest number of them. -/
structure RuleCache where
  limit : Option Nat
  entries : List (Text × Rule)
  deriving Repr, DecidableEq

/-- A size of a cache that is not a positive number. -/
inductive CacheSizeError where
  | notPositive
  | notNumber (size : Json)
  deriving Repr

/-- The name of the type of a value in messages; only values that are no numbers are named there. -/
def CacheSizeError.typeName : Json → Text
  | .string _ => "str".toList
  | .array _ => "list".toList
  | .object _ => "dict".toList
  | _ => "int".toList

/-- The wording of the failure to make a cache. -/
def CacheSizeError.message : CacheSizeError → Text
  | .notPositive => "max_size must be positive".toList
  | .notNumber size =>
      "'<' not supported between instances of '".toList ++ typeName size ++ "' and 'int'".toList

namespace RuleCache

/-- A cache without rules. -/
def empty (limit : Option Nat) : RuleCache :=
  ⟨limit, []⟩

/-- The limit that a size stands for: without a size there is none, and a truth value counts as a number. -/
def limitOf (size : Json) : Except CacheSizeError (Option Nat) :=
  match size with
  | .null => .ok none
  | .integer value => if value < 1 then .error .notPositive else .ok (some value.toNat)
  | .bool true => .ok (some 1)
  | .bool false => .error .notPositive
  | other => .error (.notNumber other)

/-- The empty cache of a size. -/
def ofSize (size : Json) : Except CacheSizeError RuleCache :=
  match limitOf size with
  | .ok limit => .ok (empty limit)
  | .error failure => .error failure

/-- The number of rules in the cache. -/
def size (cache : RuleCache) : Nat :=
  cache.entries.length

/-- The rule of a text; looking does not count as a use. -/
def find? (cache : RuleCache) (text : Text) : Option Rule :=
  cache.entries.lookup text

/-- Whether the cache has a rule of a text. -/
def contains (cache : RuleCache) (text : Text) : Bool :=
  (cache.find? text).isSome

/-- The entries of all other texts. -/
def others (cache : RuleCache) (text : Text) : List (Text × Rule) :=
  cache.entries.filter fun entry => entry.1 ≠ text

/-- The newest entries, as many as the limit admits. -/
def newest (limit : Option Nat) (entries : List (Text × Rule)) : List (Text × Rule) :=
  match limit with
  | none => entries
  | some size => entries.drop (entries.length - size)

/-- Put the rule of a text into the cache, as its most recently used one. -/
def put (cache : RuleCache) (text : Text) (rule : Rule) : RuleCache :=
  ⟨cache.limit, newest cache.limit (cache.others text ++ [(text, rule)])⟩

/-- The cache after a use of a rule that it has; a cache without a limit does not record uses. -/
def used (cache : RuleCache) (text : Text) (rule : Rule) : RuleCache :=
  match cache.limit with
  | none => cache
  | some _ => ⟨cache.limit, cache.others text ++ [(text, rule)]⟩

/-- The rule of a text, which is used by that. -/
def get (cache : RuleCache) (text : Text) : Option Rule × RuleCache :=
  match cache.find? text with
  | none => (none, cache)
  | some rule => (some rule, cache.used text rule)

/-- The cache without rules. -/
def clear (cache : RuleCache) : RuleCache :=
  empty cache.limit

/-- The rule of a text, from the cache if it has one; a rule that is read is put into the cache. -/
def parse (cache : RuleCache) (strict : Bool) (text : Text) : Except Rejection Rule × RuleCache :=
  match cache.get text with
  | (some rule, later) => (.ok rule, later)
  | (none, later) =>
      match Rule.parse strict text with
      | .ok rule => (.ok rule, later.put text rule)
      | .error rejection => (.error rejection, later)

/-- The rule of a text or its rejection, through the cache. -/
def readLine (cache : RuleCache) (strict : Bool) (text : Text) : Rule × RuleCache :=
  let (result, later) := cache.parse strict text
  (Rule.ofResult result, later)

/-- The rules of several texts, one after the other through the cache. -/
def readLines (cache : RuleCache) (strict : Bool) : List Text → List Rule × RuleCache
  | [] => ([], cache)
  | text :: texts =>
      let (rule, later) := cache.readLine strict text
      let (rules, last) := later.readLines strict texts
      (rule :: rules, last)

end RuleCache

end AdFilter
