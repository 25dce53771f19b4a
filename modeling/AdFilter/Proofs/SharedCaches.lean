import AdFilter.Proofs.ListBuckets

namespace AdFilter

/-!
# Caches that are shared

One cache may serve any number of readings: of single texts, of lines and of whole lists, under either policy, with the
cache emptied in between.  Whatever has been read, its entries are what lenient reading makes of their texts, so that
lenient readings are the same as without the cache.

Strict readings are not.  An entry does not tell under which policy it was made, and a text with an unknown option that
has been read leniently is served to strict readings, which refuse it without the cache.  This is the only difference.
-/

/-- Something to be read: a text, a line, or a list with the configuration and the environment to read it in. -/
inductive Reading where
  | rule (strict : Bool) (text : Text)
  | line (strict : Bool) (text : Text)
  | list (config : Configuration) (override : Option Text) (content : Text)

/-- What a reading gives. -/
inductive ReadingResult where
  | rule (result : Except Rejection Rule)
  | line (rule : Rule)
  | list (result : Except CacheSizeError RuleList)

namespace Reading

/-- Whether unknown options are refused. -/
def isStrict : Reading → Bool
  | .rule strict _ => strict
  | .line strict _ => strict
  | .list config override _ => (config.effectivePolicy override).isStrict

/-- What is read without a shared cache; a list then has a cache of its own. -/
def alone : Reading → ReadingResult
  | .rule strict text => .rule (Rule.parse strict text)
  | .line strict text => .line (Rule.readLine strict text)
  | .list config override content => .list (RuleList.parse config override content)

/-- What is read through a cache, and the cache afterwards.  The size in the configuration of a list is not used. -/
def through (cache : RuleCache) (reading : Reading) : ReadingResult × RuleCache :=
  match reading with
  | .rule strict text =>
      let (result, later) := cache.parse strict text
      (.rule result, later)
  | .line strict text =>
      let (lineRule, later) := cache.readLine strict text
      (.line lineRule, later)
  | .list config override content =>
      let (rules, later) := RuleList.parseWith cache (config.effectivePolicy override).isStrict content
      (.list (.ok rules), later)

/-- Whether there can be the cache that a list asks for where none is shared. -/
def HasSize : Reading → Prop
  | .rule _ _ => True
  | .line _ _ => True
  | .list config _ _ => RuleCache.IsSize config.cacheSize

/-- The same reading, where a list asks for a cache without a limit. -/
def withoutLimit : Reading → Reading
  | .rule strict text => .rule strict text
  | .line strict text => .line strict text
  | .list config override content => .list { config with cacheSize := .null } override content

/-- The limit of the cache that a list asks for does not change what is read. -/
theorem alone_withoutLimit
    {reading : Reading}
    (hasSize : reading.HasSize) :
    reading.withoutLimit.alone = reading.alone := by
  cases reading with
  | rule strict text =>
      rfl
  | line strict text =>
      rfl
  | list config override content =>
      have sameRules :
          RuleList.parse { config with cacheSize := .null } override content =
            RuleList.parse config override content := by
        rw [RuleList.parse_eq_ok hasSize]
        exact RuleList.parse_eq_ok .unlimited override content
      exact congrArg ReadingResult.list sameRules

end Reading

/-- A step in the life of a cache: something is read through it, or it is emptied. -/
inductive CacheStep where
  | read (reading : Reading)
  | clear

namespace CacheStep

/-- Whether a step reads nothing leniently. -/
def isStrict : CacheStep → Bool
  | .read reading => reading.isStrict
  | .clear => true

/-- The cache after a step. -/
def after (cache : RuleCache) : CacheStep → RuleCache
  | .read reading => (reading.through cache).2
  | .clear => cache.clear

end CacheStep

namespace RuleCache

/-- The cache after some steps, one after the other. -/
def afterSteps (cache : RuleCache) (steps : List CacheStep) : RuleCache :=
  steps.foldl CacheStep.after cache

variable {policy : Bool} {size : Json} {cache : RuleCache} {text : Text}

theorem faithful_of_ofSize
    (made : ofSize size = .ok cache) :
    Faithful policy cache := by
  unfold ofSize at made
  split at made
  · cases made
    exact faithful_empty _
  · cases made

namespace Faithful

/-- A reading under a policy that is at least as strict as that of the entries keeps the cache faithful. -/
theorem after_reading
    (faithful : Faithful policy cache)
    {reading : Reading}
    (stricter : policy = true → reading.isStrict = true) :
    Faithful policy (reading.through cache).2 := by
  cases reading with
  | rule strict text =>
      exact faithful.after_parse stricter text
  | line strict text =>
      exact faithful.after_parse stricter text
  | list config override content =>
      exact faithful.after_readLines stricter (RuleList.ruleTexts content)

theorem after_step
    (faithful : Faithful policy cache)
    {step : CacheStep}
    (stricter : policy = true → step.isStrict = true) :
    Faithful policy (step.after cache) := by
  cases step with
  | read reading =>
      exact faithful.after_reading stricter
  | clear =>
      exact faithful_empty cache.limit

/-- Steps that read nothing under a more lenient policy than that of the entries keep the cache faithful. -/
theorem afterSteps
    (faithful : Faithful policy cache)
    {steps : List CacheStep}
    (stricter : ∀ step ∈ steps, policy = true → step.isStrict = true) :
    Faithful policy (cache.afterSteps steps) := by
  induction steps generalizing cache with
  | nil =>
      exact faithful
  | cons first others inductionHypothesis =>
      have firstFaithful : Faithful policy (first.after cache) :=
        faithful.after_step (stricter first (by simp))
      exact inductionHypothesis firstFaithful
        fun step member => stricter step (by simp [member])

/-- An entry of a faithful cache has a text that is not empty, and is the rule that this text is read as. -/
theorem exists_of_contains
    (faithful : Faithful policy cache)
    (present : cache.contains text = true) :
    text ≠ [] ∧
      ∃ rule,
        cache.find? text = some rule ∧
          Rule.parse policy text = .ok rule ∧ rule.kind ≠ .invalid := by
  obtain ⟨rule, found⟩ := Option.isSome_iff_exists.mp present
  have parsed := faithful.parse_of_find? found
  exact
    ⟨Rule.ne_nil_of_parse parsed, rule, found, parsed,
      Rule.kind_ne_invalid_of_parse parsed⟩

/-- Under the policy of its entries, reading through a faithful cache is like reading alone without a limit. -/
theorem through_eq
    (faithful : Faithful policy cache)
    {reading : Reading}
    (samePolicy : reading.isStrict = policy) :
    (reading.through cache).1 = reading.withoutLimit.alone := by
  subst samePolicy
  cases reading with
  | rule strict text =>
      exact congrArg ReadingResult.rule (faithful.parse text).1
  | line strict text =>
      exact congrArg ReadingResult.line (faithful.readLine text).1
  | list config override content =>
      have readAlone :
          RuleList.parse { config with cacheSize := .null } override content =
            .ok (RuleList.ofRules
              ((RuleList.ruleTexts content).map
                (Rule.readLine (config.effectivePolicy override).isStrict))) :=
        RuleList.parse_eq_ok .unlimited override content
      rw [Reading.withoutLimit, Reading.alone, readAlone]
      exact
        congrArg (fun rules => ReadingResult.list (.ok rules))
          (faithful.parseWith content).1

end Faithful

theorem faithful_lenient_afterSteps
    (made : ofSize size = .ok cache)
    (steps : List CacheStep) :
    Faithful false (cache.afterSteps steps) :=
  (faithful_of_ofSize made).afterSteps fun _ _ isStrict => nomatch isStrict

/--
Whatever has been read through a cache, it has for a text the rule that lenient reading makes of it, and only for texts
that are rules.  Lenient readings are therefore the same as without the cache.  For a list this means the same as with a
cache of its own of any size that there can be: sizes that there cannot be do not matter where a cache is shared.
-/
theorem lenient_through_afterSteps
    (made : ofSize size = .ok cache)
    (steps : List CacheStep) :
    (∀ text,
      (cache.afterSteps steps).contains text = true →
        text ≠ [] ∧
          ∃ rule,
            (cache.afterSteps steps).find? text = some rule ∧
              Rule.parse false text = .ok rule ∧ rule.kind ≠ .invalid) ∧
      ∀ reading : Reading,
        reading.isStrict = false →
          (reading.through (cache.afterSteps steps)).1 =
              reading.withoutLimit.alone ∧
            (reading.HasSize →
              (reading.through (cache.afterSteps steps)).1 =
                reading.alone) := by
  have faithful := faithful_lenient_afterSteps made steps
  refine ⟨fun text present => faithful.exists_of_contains present, ?_⟩
  intro reading lenient
  have sameResult := faithful.through_eq lenient
  refine ⟨sameResult, ?_⟩
  intro hasSize
  exact sameResult.trans (Reading.alone_withoutLimit hasSize)

/-- A strict list before it and the loss of entries leave a lenient reading as it is alone. -/
theorem lenient_through_after_strict_list :
    ofSize (.integer 1) = .ok (empty (some 1)) ∧
      (Reading.rule false "x$y".toList).isStrict = false ∧
      ((Reading.rule false "x$y".toList).through
          ((empty (some 1)).afterSteps
            [.read (.list ⟨.reject, .null⟩ none "x$y\n!a\n!b".toList),
              .clear, .read (.line true "##.c".toList)])).1 =
        (Reading.rule false "x$y".toList).alone :=
  ⟨rfl, rfl,
    ((lenient_through_afterSteps (rfl : ofSize (.integer 1) = .ok (empty (some 1)))
      [.read (.list ⟨.reject, .null⟩ none "x$y\n!a\n!b".toList),
        .clear, .read (.line true "##.c".toList)]).2
      (.rule false "x$y".toList) rfl).2 trivial⟩

/-- A list whose configuration asks for a cache that there cannot be is refused alone, and read through a cache. -/
theorem through_ne_alone_of_no_size :
    ofSize .null = .ok (empty none) ∧
      (Reading.list ⟨.ignore, .integer 0⟩ none "!a".toList).isStrict = false ∧
      ((Reading.list ⟨.ignore, .integer 0⟩ none "!a".toList).through
          ((empty none).afterSteps [])).1 =
        .list (.ok ⟨[], [], [], ["!a".toList], []⟩) ∧
      (Reading.list ⟨.ignore, .integer 0⟩ none "!a".toList).alone =
        .list (.error .notPositive) ∧
      ((Reading.list ⟨.ignore, .integer 0⟩ none "!a".toList).through
          ((empty none).afterSteps [])).1 ≠
        (Reading.list ⟨.ignore, .integer 0⟩ none "!a".toList).alone :=
  ⟨rfl, rfl, rfl, rfl, nofun⟩

/-! ## Strict readings -/

/-- Through a cache of lenient entries, strict reading differs from reading alone only where an entry has an unknown
option. -/
theorem Faithful.strict_parse_ne_iff
    (faithful : Faithful false cache)
    (text : Text) :
    (cache.parse true text).1 ≠ Rule.parse true text ↔
      cache.contains text = true ∧
        Rule.parse true text = .error ⟨.unknownOption, text⟩ := by
  rw [faithful.parse_eq]
  by_cases present : cache.contains text = true
  · obtain ⟨_, rule, _, lenient, _⟩ := faithful.exists_of_contains present
    rw [if_pos present, lenient]
    rcases Rule.parse_strict_of_lenient lenient with accepted | refused
    · simp [accepted]
    · simp [refused, present]
  · rw [if_neg present]
    exact
      ⟨fun different => absurd rfl different,
        fun both => absurd both.1 present⟩

/--
Strict reading through a cache gives what it gives alone, except for a text that the cache has and that strict reading
refuses, which then is for an unknown option: such a text is read leniently.  There is none if all that has been read
through the cache was read strictly.
-/
theorem strict_parse_afterSteps
    (made : ofSize size = .ok cache)
    (steps : List CacheStep)
    (text : Text) :
    ((cache.afterSteps steps).parse true text).1 =
        (if (cache.afterSteps steps).contains text then
          Rule.parse false text
        else
          Rule.parse true text) ∧
      (((cache.afterSteps steps).parse true text).1 ≠ Rule.parse true text ↔
        (cache.afterSteps steps).contains text = true ∧
          Rule.parse true text = .error ⟨.unknownOption, text⟩) ∧
      ((∀ step ∈ steps, step.isStrict = true) →
        ((cache.afterSteps steps).parse true text).1 =
          Rule.parse true text) := by
  have lenient := faithful_lenient_afterSteps made steps
  refine
    ⟨lenient.parse_eq true text, lenient.strict_parse_ne_iff text, ?_⟩
  intro allStrict
  have strict : Faithful true (cache.afterSteps steps) :=
    (faithful_of_ofSize made).afterSteps
      fun step member _ => allStrict step member
  exact (strict.parse text).1

/-- A text that only strict readings have met is refused as without the cache. -/
theorem strict_parse_after_strict :
    ofSize .null = .ok (empty none) ∧
      (((empty none).afterSteps
          [.read (.rule true "x$y".toList)]).parse true "x$y".toList).1 =
        .error ⟨.unknownOption, "x$y".toList⟩ := by
  have alone :
      Rule.parse true "x$y".toList =
        .error ⟨.unknownOption, "x$y".toList⟩ :=
    rfl
  refine ⟨rfl, ?_⟩
  rw [← alone]
  refine
    (strict_parse_afterSteps (rfl : ofSize .null = .ok (empty none))
      [.read (.rule true "x$y".toList)] "x$y".toList).2.2 ?_
  intro step member
  rw [List.mem_singleton.mp member]
  rfl

/-- A text with an unknown option that has been read leniently is served to a strict reading, which refuses it alone. -/
theorem strict_parse_after_lenient :
    ofSize .null = .ok (empty none) ∧
      (((empty none).afterSteps
          [.read (.rule false "||ads.com^$webbundle".toList)]).parse true
            "||ads.com^$webbundle".toList).1 =
        Rule.parse false "||ads.com^$webbundle".toList ∧
      Rule.parse true "||ads.com^$webbundle".toList =
        .error ⟨.unknownOption, "||ads.com^$webbundle".toList⟩ ∧
      (((empty none).afterSteps
          [.read (.rule false "||ads.com^$webbundle".toList)]).parse true
            "||ads.com^$webbundle".toList).1 ≠
        Rule.parse true "||ads.com^$webbundle".toList :=
  ⟨rfl, rfl, rfl, nofun⟩

end RuleCache

end AdFilter
