import AdFilter.Proofs.CachedParsing
import AdFilter.Proofs.TextForms
import AdFilter.RuleList

namespace AdFilter

/-!
# Where the lines of a list go

A list keeps its rules in five places.  Every line ends up in the one place for what it is read as, in the order of the
lines, and the cache has no say in this.
-/

/-- The places of a list. -/
inductive Bucket where
  | blocking
  | allowing
  | content
  | comments
  | invalid
  deriving Repr, DecidableEq

/-- The place of a rule: rules on contents that are too broad are kept with those that are none. -/
def Rule.bucket (rule : Rule) : Bucket :=
  match rule.kind with
  | .url .block => .blocking
  | .url .allow => .allowing
  | .content .tooBroad => .invalid
  | .content _ => .content
  | .comment => .comments
  | .invalid => .invalid

/-- The rules of a place. -/
def RuleList.bucket (list : RuleList) : Bucket → List Rule
  | .blocking => list.blocking.map Rule.url
  | .allowing => list.allowing.map Rule.url
  | .content => list.content.map Rule.content
  | .comments => list.comments.map Rule.comment
  | .invalid => list.invalid

/-! ## Adding rules -/

variable {strict : Bool}

namespace RuleList

/-- A rule is added at the end of its place, and no other place changes. -/
theorem bucket_add
    (list : RuleList)
    (rule : Rule)
    (bucket : Bucket) :
    (list.add rule).bucket bucket =
      list.bucket bucket ++ [rule].filter (·.bucket = bucket) := by
  cases rule with
  | comment text =>
      cases bucket <;> simp [add, RuleList.bucket, Rule.bucket, Rule.kind]
  | invalid rejection =>
      cases bucket <;> simp [add, RuleList.bucket, Rule.bucket, Rule.kind]
  | url urlRule =>
      cases action : urlRule.action <;> cases bucket <;>
        simp [add, RuleList.bucket, Rule.bucket, Rule.kind, action]
  | content contentRule =>
      cases action : contentRule.action <;> cases bucket <;>
        simp [add, RuleList.bucket, Rule.bucket, Rule.kind, action]

/-- Adding rules one after the other adds to every place those that belong to it, in their order. -/
theorem bucket_foldl_add
    (list : RuleList)
    (rules : List Rule)
    (bucket : Bucket) :
    (rules.foldl add list).bucket bucket =
      list.bucket bucket ++ rules.filter (·.bucket = bucket) := by
  induction rules generalizing list with
  | nil =>
      rw [List.filter_nil, List.append_nil]
      rfl
  | cons first others inductionHypothesis =>
      rw [List.foldl_cons, inductionHypothesis, bucket_add,
        List.append_assoc, ← List.filter_append]
      rfl

/-- The places of a list of rules have those that belong to them, in their order. -/
theorem bucket_ofRules
    (rules : List Rule)
    (bucket : Bucket) :
    (ofRules rules).bucket bucket = rules.filter (·.bucket = bucket) := by
  have nothingBefore : RuleList.empty.bucket bucket = [] := by
    cases bucket <;> rfl
  rw [ofRules, bucket_foldl_add, nothingBefore, List.nil_append]

end RuleList

/-- Through a faithful cache, a list holds what its lines are read as without it, and the cache stays faithful. -/
theorem RuleCache.Faithful.parseWith
    {cache : RuleCache}
    (faithful : Faithful strict cache)
    (content : Text) :
    (RuleList.parseWith cache strict content).1 =
        RuleList.ofRules
          ((RuleList.ruleTexts content).map (Rule.readLine strict)) ∧
      Faithful strict (RuleList.parseWith cache strict content).2 := by
  obtain ⟨sameRules, stillFaithful⟩ :=
    faithful.readLines (RuleList.ruleTexts content)
  exact ⟨congrArg RuleList.ofRules sameRules, stillFaithful⟩

namespace RuleList

/-- A list holds what its lines are read as without a cache. -/
theorem parse_eq_ok
    {config : Configuration}
    (isSize : RuleCache.IsSize config.cacheSize)
    (override : Option Text)
    (content : Text) :
    parse config override content =
      .ok (ofRules
        ((ruleTexts content).map
          (Rule.readLine (config.effectivePolicy override).isStrict))) := by
  obtain ⟨limit, cache⟩ := RuleCache.exists_ofSize_eq_ok isSize
  have faithful :
      RuleCache.Faithful (config.effectivePolicy override).isStrict
        (.empty limit) :=
    RuleCache.faithful_empty limit
  rw [parse, cache]
  exact congrArg Except.ok (faithful.parseWith content).1

/--
A list is always read if its cache may have the size that is asked for.  Each of its places has, in order, what the
lines that belong there are read as without a cache, and with the texts of these lines.
-/
theorem parse_bucket
    {config : Configuration}
    (isSize : RuleCache.IsSize config.cacheSize)
    (override : Option Text)
    (content : Text) :
    ∃ list,
      parse config override content = .ok list ∧
        ∀ bucket,
          list.bucket bucket =
              ((ruleTexts content).map
                (Rule.readLine
                  (config.effectivePolicy override).isStrict)).filter
                (·.bucket = bucket) ∧
            (list.bucket bucket).map Rule.text =
              (ruleTexts content).filter fun line =>
                (Rule.readLine
                  (config.effectivePolicy override).isStrict line).bucket =
                    bucket := by
  refine ⟨_, parse_eq_ok isSize override content, ?_⟩
  intro bucket
  refine ⟨bucket_ofRules _ bucket, ?_⟩
  rw [bucket_ofRules, List.filter_map, List.map_map]
  have keepsText :
      Rule.text ∘ Rule.readLine (config.effectivePolicy override).isStrict =
        id :=
    funext fun line => Rule.text_readLine _ line
  rw [keepsText, List.map_id]
  rfl

/-- With room for a single rule in its cache, a list still has both of two equal lines. -/
theorem parse_bucket_equal_lines :
    ∃ list,
      parse ⟨.ignore, .integer 1⟩ none "!a\nx$y\n !a \n".toList =
          .ok list ∧
        (list.bucket .comments).map Rule.text =
          ["!a".toList, "!a".toList] := by
  obtain ⟨list, read, buckets⟩ :=
    @parse_bucket ⟨.ignore, .integer 1⟩ (.number (by decide)) none
      "!a\nx$y\n !a \n".toList
  refine ⟨list, read, ?_⟩
  rw [(buckets .comments).2]
  decide +kernel

end RuleList

end AdFilter
