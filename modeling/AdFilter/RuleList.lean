import AdFilter.Configuration
import AdFilter.RuleCache

namespace AdFilter

/-!
# Filter lists

A filter list has one rule on every line.  Blank lines and headers such as `[Adblock Plus 2.0]` are skipped; a line that
is no rule is kept among the invalid ones.
-/

/-- The rules of filter lists, by what they are. -/
structure RuleList where
  blocking : List UrlRule
  allowing : List UrlRule
  content : List ContentRule
  comments : List Text
  invalid : List Rule
  deriving Repr, DecidableEq

namespace RuleList

/-- No rules. -/
def empty : RuleList :=
  ⟨[], [], [], [], []⟩

/-- One rule more. -/
def add (list : RuleList) (rule : Rule) : RuleList :=
  match rule with
  | .comment text => { list with comments := list.comments ++ [text] }
  | .invalid _ => { list with invalid := list.invalid ++ [rule] }
  | .url urlRule =>
      match urlRule.action with
      | .block => { list with blocking := list.blocking ++ [urlRule] }
      | .allow => { list with allowing := list.allowing ++ [urlRule] }
  | .content contentRule =>
      if contentRule.action = .tooBroad then
        { list with invalid := list.invalid ++ [rule] }
      else
        { list with content := list.content ++ [contentRule] }

/-- The rules of two lists. -/
def append (first second : RuleList) : RuleList where
  blocking := first.blocking ++ second.blocking
  allowing := first.allowing ++ second.allowing
  content := first.content ++ second.content
  comments := first.comments ++ second.comments
  invalid := first.invalid ++ second.invalid

/-- The list of some rules in order. -/
def ofRules (rules : List Rule) : RuleList :=
  rules.foldl add empty

/-- The rules on addresses, those that block first. -/
def urlRules (list : RuleList) : List UrlRule :=
  list.blocking ++ list.allowing

/-- The rules on addresses that apply to a request. -/
def matching (list : RuleList) (request : Request) (types : TypeMask) (sitekey : Option Text) : List UrlRule :=
  list.urlRules.filter fun rule => rule.matchesRequest request types sitekey

/-- Something that is not a rule was to be added to a list. -/
structure NotRule where
  text : Text
  deriving Repr, DecidableEq

/-- The wording of the failure to add something to a list. -/
def NotRule.message (failure : NotRule) : Text :=
  "Unexpected filter: ".toList ++ Text.quoted failure.text

/-- The names of programs that the header of a list begins with. -/
def headerNames : List Text :=
  ["Adblock".toList, "uBlock".toList, "AdGuard".toList]

/-- Whether a line is the header of a list: the name of a program and more in brackets. -/
def isHeader (line : Text) : Bool :=
  match line with
  | '[' :: rest =>
      match [']'].isSuffixOf? rest with
      | some inside => headerNames.any fun name => (Text.afterSameLetters? name inside).isSome && !inside.elem ']'
      | none => false
  | _ => false

/-- The texts of the rules in the content of a list. -/
def ruleTexts (content : Text) : List Text :=
  ((Text.lines content).map Text.strip).filter fun line => line ≠ [] && !isHeader line

/-- The rules in the content of a list, read through a cache. -/
def parseWith (cache : RuleCache) (strict : Bool) (content : Text) : RuleList × RuleCache :=
  let (rules, later) := cache.readLines strict (ruleTexts content)
  (ofRules rules, later)

/-- The rules in the contents of several lists, read through one cache. -/
def parseAllWith (cache : RuleCache) (strict : Bool) : List Text → RuleList × RuleCache
  | [] => (empty, cache)
  | content :: contents =>
      let (first, later) := parseWith cache strict content
      let (others, last) := parseAllWith later strict contents
      (first.append others, last)

/-- The rules in the content of a list, read through a cache of its own. -/
def parse (config : Configuration) (override : Option Text) (content : Text) :
    Except CacheSizeError RuleList :=
  match RuleCache.ofSize config.cacheSize with
  | .error failure => .error failure
  | .ok cache => .ok (parseWith cache (config.effectivePolicy override).isStrict content).1

/-- The rules in the contents of named lists, read through a cache of their own. -/
def parseAll (config : Configuration) (override : Option Text) (lists : TextMap Text) :
    Except CacheSizeError RuleList :=
  match RuleCache.ofSize config.cacheSize with
  | .error failure => .error failure
  | .ok cache =>
      .ok (parseAllWith cache (config.effectivePolicy override).isStrict (lists.entries.map Prod.snd)).1

end RuleList

end AdFilter
