import AdFilter.Proofs.TypeMasks
import AdFilter.Rule.Basic

namespace AdFilter

/-!
# Queries for several types

A query may ask for several types at once.  A rule on addresses answers it as it answers the queries for the types one by
one, and the type of policies neither adds anything to a query nor takes anything from it: a query selects a rule by the
other bits that it shares with the mask of the rule, declared or not.
-/

namespace UrlRule

variable {rule : UrlRule} {request : Request} {sitekey : Option Text} {first second types : TypeMask}

/-- A rule applies to a query by a shared bit other than that of policies. -/
theorem appliesToTypes_iff :
    rule.appliesToTypes types = true ↔
      ∃ position,
        position ≠ ContentType.csp.bit ∧
          types.HasBit position ∧
          rule.contentTypes.HasBit position := by
  simp only [appliesToTypes, TypeMask.overlaps_iff, TypeMask.context,
    TypeMask.hasBit_diff_iff, TypeMask.hasBit_ofType_iff]
  refine exists_congr fun position => ?_
  rw [and_comm (a := types.HasBit position), and_assoc]

/-- A rule matches for a query that it applies to, if it matches the request for any query. -/
theorem matchesRequest_iff :
    rule.matchesRequest request types sitekey = true ↔
      rule.appliesToTypes types = true ∧
        ∃ other, rule.matchesRequest request other sitekey = true := by
  constructor
  · intro found
    exact ⟨(Bool.and_eq_true_iff.mp found).1, types, found⟩
  · intro condition
    obtain ⟨applies, other, found⟩ := condition
    obtain ⟨_, fits⟩ := Bool.and_eq_true_iff.mp found
    exact Bool.and_eq_true_iff.mpr ⟨applies, fits⟩

/-- Queries that a rule applies to alike are answered alike. -/
theorem matchesRequest_eq_of_appliesToTypes_eq
    (same : rule.appliesToTypes first = rule.appliesToTypes second) :
    rule.matchesRequest request first sitekey =
      rule.matchesRequest request second sitekey := by
  rw [matchesRequest, matchesRequest, same]

/-- Queries with the same bits but for that of policies are answered alike. -/
theorem matchesRequest_eq_of_sameBits
    (same :
      ∀ position, position ≠ ContentType.csp.bit →
        (first.HasBit position ↔ second.HasBit position)) :
    rule.matchesRequest request first sitekey =
      rule.matchesRequest request second sitekey := by
  apply matchesRequest_eq_of_appliesToTypes_eq
  rw [Bool.eq_iff_iff, appliesToTypes_iff, appliesToTypes_iff]
  refine exists_congr fun position => and_congr_right fun notCsp => ?_
  rw [same position notCsp]

theorem appliesToTypes_union :
    rule.appliesToTypes (first.union second) =
      (rule.appliesToTypes first || rule.appliesToTypes second) := by
  rw [Bool.eq_iff_iff, Bool.or_eq_true, appliesToTypes_iff,
    appliesToTypes_iff, appliesToTypes_iff, ← exists_or]
  refine exists_congr fun position => ?_
  rw [TypeMask.hasBit_union_iff, or_and_right, and_or_left]

/--
A query for the types of two masks finds what the queries for either mask find.  Adding the type of policies to a query, or
taking it out, changes nothing.  A query finds a rule that fits the request exactly if it shares a bit other than that of
policies with the mask of the rule.
-/
theorem matchesRequest_queries
    (rule : UrlRule)
    (request : Request)
    (sitekey : Option Text) :
    (∀ first second,
      rule.matchesRequest request (first.union second) sitekey =
        (rule.matchesRequest request first sitekey ||
          rule.matchesRequest request second sitekey)) ∧
      (∀ types,
        rule.matchesRequest request (types.union (.ofType .csp)) sitekey =
            rule.matchesRequest request types sitekey ∧
          rule.matchesRequest request (types.diff (.ofType .csp)) sitekey =
            rule.matchesRequest request types sitekey) ∧
      ∀ types,
        rule.matchesRequest request types sitekey = true ↔
          (∃ position,
            position ≠ ContentType.csp.bit ∧
              types.HasBit position ∧
              rule.contentTypes.HasBit position) ∧
            ∃ other, rule.matchesRequest request other sitekey = true := by
  refine ⟨?_, ?_, ?_⟩
  · intro first second
    rw [matchesRequest, appliesToTypes_union, Bool.and_or_distrib_right]
    rfl
  · intro types
    constructor
    · apply matchesRequest_eq_of_sameBits
      intro position notCsp
      simp [notCsp]
    · apply matchesRequest_eq_of_sameBits
      intro position notCsp
      simp [notCsp]
  · intro types
    rw [matchesRequest_iff, appliesToTypes_iff]

/-- A bit that no type has selects a rule, where the bit of policies does not. -/
example :
    let rule : UrlRule :=
      ⟨[], .block, .literal [] false, ⟨2 ^ 70 + 2 ^ 25⟩, none, .empty, [],
        none, [], [], []⟩
    rule.matchesRequest ⟨['a'], none⟩ ⟨2 ^ 70⟩ none = true ∧
      rule.matchesRequest ⟨['a'], none⟩ (.ofType .csp) none = false := by
  decide

end UrlRule

end AdFilter
