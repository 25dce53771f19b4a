import AdFilter.Proofs.StrictPolicy
import AdFilter.RuleCache

namespace AdFilter

/-!
# Reading through a cache

A cache of any size never changes what a text is read as.  The reason is an invariant: every entry is what its text is
read as, and neither hits nor new entries nor the loss of old ones can break that.  An entry that a stricter policy has
made keeps the invariant as well; an entry is served under any policy, though.
-/

namespace RuleCache

/-- Every rule in the cache is what its text is read as. -/
def Faithful (strict : Bool) (cache : RuleCache) : Prop :=
  ∀ entry ∈ cache.entries, Rule.parse strict entry.1 = .ok entry.2

variable {policy strict : Bool} {cache : RuleCache} {text : Text} {rule : Rule}

theorem faithful_empty
    (limit : Option Nat) :
    Faithful strict (empty limit) :=
  fun _ member => absurd member List.not_mem_nil

theorem mem_of_mem_newest
    {limit : Option Nat}
    {entries : List (Text × Rule)}
    {entry : Text × Rule}
    (member : entry ∈ newest limit entries) :
    entry ∈ entries := by
  cases limit with
  | none =>
      exact member
  | some size =>
      exact List.mem_of_mem_drop member

theorem mem_of_find?
    (found : cache.find? text = some rule) :
    (text, rule) ∈ cache.entries := by
  obtain ⟨before, after, entriesShape, _⟩ :=
    List.lookup_eq_some_iff.mp found
  simp [entriesShape]

namespace Faithful

theorem parse_of_find?
    (faithful : Faithful strict cache)
    (found : cache.find? text = some rule) :
    Rule.parse strict text = .ok rule :=
  faithful (text, rule) (mem_of_find? found)

/-- A new last entry keeps the entries faithful if it is faithful itself. -/
theorem of_mem_others_append
    (faithful : Faithful strict cache)
    (parsed : Rule.parse strict text = .ok rule)
    {entry : Text × Rule}
    (member : entry ∈ cache.others text ++ [(text, rule)]) :
    Rule.parse strict entry.1 = .ok entry.2 := by
  rcases List.mem_append.mp member with isOther | isNew
  · exact faithful entry (List.mem_filter.mp isOther).1
  · rw [List.mem_singleton.mp isNew]
    exact parsed

/-- Putting what a text is read as into the cache keeps it faithful, whatever is dropped for it. -/
theorem put
    (faithful : Faithful strict cache)
    (parsed : Rule.parse strict text = .ok rule) :
    Faithful strict (cache.put text rule) := by
  intro entry member
  exact faithful.of_mem_others_append parsed (mem_of_mem_newest member)

/-- A use of an entry keeps the cache faithful. -/
theorem used
    (faithful : Faithful strict cache)
    (parsed : Rule.parse strict text = .ok rule) :
    Faithful strict (cache.used text rule) := by
  unfold RuleCache.used
  split
  · exact faithful
  · intro entry member
    exact faithful.of_mem_others_append parsed member

/-- A text that the cache has is read as the policy of its entries says, and any other text as asked for. -/
theorem parse_eq
    (faithful : Faithful policy cache)
    (strict : Bool)
    (text : Text) :
    (cache.parse strict text).1 =
      if cache.contains text then
        Rule.parse policy text
      else
        Rule.parse strict text := by
  cases found : cache.find? text with
  | some rule =>
      simp only [RuleCache.parse, get, contains, found, Option.isSome_some,
        if_true]
      exact (faithful.parse_of_find? found).symm
  | none =>
      simp only [RuleCache.parse, get, contains, found, Option.isSome_none,
        Bool.false_eq_true, if_false]
      cases Rule.parse strict text <;> rfl

/-- Reading a text under a policy that is at least as strict as that of the entries keeps the cache faithful. -/
theorem after_parse
    (faithful : Faithful policy cache)
    (stricter : policy = true → strict = true)
    (text : Text) :
    Faithful policy (cache.parse strict text).2 := by
  cases found : cache.find? text with
  | some rule =>
      simp only [RuleCache.parse, get, found]
      exact faithful.used (faithful.parse_of_find? found)
  | none =>
      cases parsed : Rule.parse strict text with
      | ok rule =>
          simp only [RuleCache.parse, get, found, parsed]
          exact faithful.put (Rule.parse_of_stricter stricter parsed)
      | error rejection =>
          simp only [RuleCache.parse, get, found, parsed]
          exact faithful

theorem after_readLines
    (faithful : Faithful policy cache)
    (stricter : policy = true → strict = true)
    (texts : List Text) :
    Faithful policy (cache.readLines strict texts).2 := by
  induction texts generalizing cache with
  | nil =>
      exact faithful
  | cons first others inductionHypothesis =>
      exact inductionHypothesis (faithful.after_parse stricter first)

/-- Through a faithful cache, a text is read as without it, and the cache stays faithful. -/
theorem parse
    (faithful : Faithful strict cache)
    (text : Text) :
    (cache.parse strict text).1 = Rule.parse strict text ∧
      Faithful strict (cache.parse strict text).2 := by
  refine ⟨?_, faithful.after_parse id text⟩
  rw [faithful.parse_eq, ite_self]

/-- Through a faithful cache, a line is read as without it, and the cache stays faithful. -/
theorem readLine
    (faithful : Faithful strict cache)
    (text : Text) :
    (cache.readLine strict text).1 = Rule.readLine strict text ∧
      Faithful strict (cache.readLine strict text).2 := by
  obtain ⟨sameResult, stillFaithful⟩ := faithful.parse text
  exact ⟨congrArg Rule.ofResult sameResult, stillFaithful⟩

/-- Through a faithful cache, lines are read one by one as without it. -/
theorem readLines
    (faithful : Faithful strict cache)
    (texts : List Text) :
    (cache.readLines strict texts).1 = texts.map (Rule.readLine strict) ∧
      Faithful strict (cache.readLines strict texts).2 := by
  refine ⟨?_, faithful.after_readLines id texts⟩
  induction texts generalizing cache with
  | nil =>
      rfl
  | cons first others inductionHypothesis =>
      obtain ⟨sameFirst, stillFaithful⟩ := faithful.readLine first
      change
        (cache.readLine strict first).1 ::
            ((cache.readLine strict first).2.readLines strict others).1 = _
      rw [sameFirst, inductionHypothesis stillFaithful, List.map_cons]

end Faithful

/-! ## Sizes -/

/-- The sizes that a cache may have: none, or a positive number, as which the true truth value counts. -/
inductive IsSize : Json → Prop where
  | unlimited :
      IsSize .null
  | number
      {value : Int}
      (positive : 1 ≤ value) :
      IsSize (.integer value)
  | truth :
      IsSize (.bool true)

/-- A size makes an empty cache. -/
theorem exists_ofSize_eq_ok
    {size : Json}
    (isSize : IsSize size) :
    ∃ limit, ofSize size = .ok (empty limit) := by
  cases isSize with
  | unlimited =>
      exact ⟨none, rfl⟩
  | @number value positive =>
      refine ⟨some value.toNat, ?_⟩
      rw [ofSize, limitOf, if_neg (Int.not_lt.mpr positive)]
  | truth =>
      exact ⟨some 1, rfl⟩

end RuleCache

end AdFilter
