import AdFilter.Proofs.RuleActivity

namespace AdFilter

/-!
# The reach of rules on contents

A rule that runs a script or looks beyond plain selectors acts only where an entry of its list of domains lets it.
Whether it names a domain is checked in the text of the list, and where it acts follows from the map that is read from
it.  No text passes the check and comes out without domains.
-/

namespace Restriction

variable {restriction : Restriction} {domain sitekey : Option Text}

/-- A rule that names domains and no keys is active where its domains say so. -/
theorem isActive_iff_of_no_keys
    (noKeys : restriction.sitekeys = none)
    (notEmpty : restriction.domains.isEmpty = false) :
    restriction.isActive domain sitekey = true ↔
      restriction.decisionFor? domain = some true := by
  rw [isActive, isActiveByKey_of_no_key (Or.inr noKeys), notEmpty]
  cases restriction.decisionFor? domain <;> simp

end Restriction

theorem ContentMark.needsDomain_iff
    {mark : ContentMark} :
    mark.needsDomain = true ↔
      mark.action = .emulateHiding ∨ mark.action = .runSnippet := by
  cases mark <;> decide

namespace ContentRule

variable {mark : ContentMark} {entries : List Text} {entry domains body : Text}

theorem isBlankEntry_iff :
    isBlankEntry entry = true ↔ entry = [] ∨ entry = ['~'] := by
  simp [isBlankEntry]

theorem isBlankEntry_eq_false_of_mem
    (noneBlank : hasBlankEntry entries = false)
    (member : entry ∈ entries) :
    isBlankEntry entry = false := by
  induction entries using hasBlankEntry.induct with
  | case1 =>
      cases member
  | case2 last =>
      obtain rfl := List.mem_singleton.mp member
      simp_all [hasBlankEntry]
  | case3 first others notLast inductionHypothesis =>
      rw [hasBlankEntry, Bool.or_eq_false_iff] at noneBlank
      · rcases List.mem_cons.mp member with rfl | isOther
        · exact noneBlank.1
        · exact inductionHypothesis noneBlank.2 isOther
      · exact notLast

theorem namesRealDomain_nil : namesRealDomain [] = false := by
  decide

/-- A list of domains without blank entries is read as empty only if nothing is written. -/
theorem isEmpty_ofSource_iff
    (noneBlank :
      domains ≠ [] → hasBlankEntry (List.splitOn ',' domains) = false) :
    (DomainMap.ofSource ',' domains).isEmpty = true ↔ domains = [] := by
  rw [DomainMap.ofSource, DomainMap.isEmpty_ofEntries_iff]
  constructor
  · intro allBlank
    by_contra notEmpty
    obtain ⟨entry, member⟩ :=
      List.exists_mem_of_ne_nil _ (List.splitOn_ne_nil ',' domains)
    have notBlank :=
      isBlankEntry_eq_false_of_mem (noneBlank notEmpty) member
    rw [isBlankEntry_iff.mpr (allBlank entry member)] at notBlank
    cases notBlank
  · rintro rfl
    simp

/-! ## What rules are allowed to do -/

/-- A list of domains and a body are narrow enough for what a mark stands for. -/
structure Allows (mark : ContentMark) (domains body : Text) : Prop where
  noneBlank :
    domains ≠ [] → hasBlankEntry (List.splitOn ',' domains) = false
  restricted :
    namesRealDomain domains = true ∨
      mark.needsDomain = false ∧ leastBodyLength ≤ body.length

/-- A rule that is not too broad does what its mark says, and its parts allow it. -/
theorem allows_of_actionOf_ne_tooBroad
    (notTooBroad : actionOf mark domains body ≠ .tooBroad) :
    Allows mark domains body ∧
      actionOf mark domains body = mark.action := by
  by_cases blank :
      domains ≠ [] ∧ hasBlankEntry (List.splitOn ',' domains) = true
  · exact absurd (if_pos blank) notTooBroad
  have noneBlank :
      domains ≠ [] → hasBlankEntry (List.splitOn ',' domains) = false := by
    intro notEmpty
    simpa [notEmpty] using blank
  by_cases real : namesRealDomain domains = true
  · refine ⟨⟨noneBlank, Or.inl real⟩, ?_⟩
    rw [actionOf, if_neg blank, if_pos real]
  rw [actionOf, if_neg blank, if_neg real] at notTooBroad ⊢
  by_cases broad :
      mark.needsDomain = true ∨ body.length < leastBodyLength
  · exact absurd (if_pos broad) notTooBroad
  rw [if_neg broad]
  rw [not_or, Bool.not_eq_true, not_lt] at broad
  exact ⟨⟨noneBlank, Or.inr broad⟩, rfl⟩

/-- A rule is active only in documents whose domain its list includes. -/
structure OnlyIncluded (rule : ContentRule) : Prop where
  notGeneric : rule.restriction.isGeneric = false
  inactiveIfUnknown :
    ∀ sitekey, rule.restriction.isActive none sitekey = false
  inactiveIfEmpty :
    ∀ sitekey, rule.restriction.isActive (some []) sitekey = false
  included :
    ∀ domain sitekey,
      rule.restriction.isActive (some domain) sitekey = true →
      ∃ entry ∈ List.splitOn ',' rule.domainSource, ∃ name,
        Domain.Names entry name true ∧
          Domain.Covers name (Text.lower domain)

/-- A rule on contents whose list of domains is not read as empty is active only where the list includes. -/
theorem onlyIncluded_of_isEmpty_eq_false
    {rule : ContentRule}
    (read : rule.domains = .ofSource ',' rule.domainSource)
    (notEmpty : rule.domains.isEmpty = false) :
    rule.OnlyIncluded := by
  have active_iff (domain sitekey : Option Text) :
      rule.restriction.isActive domain sitekey = true ↔
        rule.restriction.decisionFor? domain = some true :=
    Restriction.isActive_iff_of_no_keys rfl notEmpty
  constructor
  · rw [Restriction.isGeneric, restriction, notEmpty, Bool.false_and]
  · intro sitekey
    exact Bool.eq_false_iff.mpr fun active =>
      nomatch (active_iff none sitekey).mp active
  · intro sitekey
    exact Bool.eq_false_iff.mpr fun active =>
      nomatch (active_iff (some []) sitekey).mp active
  · intro domain sitekey active
    obtain ⟨known, name, same, _, decides⟩ :=
      (Restriction.decisionFor?_eq_some_iff read).mp
        ((active_iff (some domain) sitekey).mp active)
    obtain ⟨earlier, entry, later, shape, names, _⟩ := decides.last
    obtain rfl := Option.some.inj same
    refine ⟨entry, ?_, name, names, decides.covers⟩
    rw [shape]
    simp

variable {strict : Bool} {text : Text} {rule : ContentRule}

/--
A rule that looks beyond plain selectors or runs a script is active only where its list of domains includes, and a rule
that hides elements or makes an exception from hiding on all domains has a body of at least three characters.
-/
theorem contained_of_parse
    (parsed : Rule.parse strict text = .ok (.content rule)) :
    (rule.action = .emulateHiding ∨ rule.action = .runSnippet →
        rule.OnlyIncluded) ∧
      (rule.action = .hide ∨ rule.action = .unhide →
        rule.restriction.isGeneric = true → 3 ≤ rule.body.length) := by
  obtain ⟨parts, _, rfl⟩ := Rule.exists_parts_of_parse parsed
  generalize shape : ContentRule.ofParts text parts = rule
  have read : rule.domains = .ofSource ',' rule.domainSource := by
    rw [← shape, ofParts]
  have allowed (notTooBroad : rule.action ≠ .tooBroad) :
      Allows parts.mark rule.domainSource rule.body ∧
        rule.action = parts.mark.action := by
    subst shape
    exact allows_of_actionOf_ne_tooBroad notTooBroad
  constructor
  · intro powerful
    obtain ⟨allows, sameAction⟩ :=
      allowed (by rcases powerful with action | action <;> simp [action])
    rw [sameAction, ← ContentMark.needsDomain_iff] at powerful
    have someDomain : rule.domainSource ≠ [] := by
      intro noDomain
      have restricted := allows.restricted
      simp [powerful, noDomain, namesRealDomain_nil] at restricted
    refine onlyIncluded_of_isEmpty_eq_false read ?_
    rw [read, ← Bool.not_eq_true, isEmpty_ofSource_iff allows.noneBlank]
    exact someDomain
  · intro hides generic
    obtain ⟨allows, _⟩ :=
      allowed (by rcases hides with action | action <;> simp [action])
    have isEmpty : rule.domains.isEmpty = true :=
      (Bool.and_eq_true_iff.mp generic).1
    rw [read, isEmpty_ofSource_iff allows.noneBlank] at isEmpty
    rcases allows.restricted with real | ⟨_, longEnough⟩
    · rw [isEmpty, namesRealDomain_nil] at real
      cases real
    · exact longEnough

/-- A rule with a negated entry and the local host is contained, and so is one for all domains with a long body. -/
theorem contained_of_parse_mixed :
    (∃ rule : ContentRule,
      Rule.parse true "~x.y,A.b,localhost#?#c".toList =
          .ok (.content rule) ∧
        rule.action = .emulateHiding ∧
        rule.OnlyIncluded) ∧
      ∃ rule : ContentRule,
        Rule.parse true "##abc".toList = .ok (.content rule) ∧
          rule.action = .hide ∧
          rule.restriction.isGeneric = true ∧
          3 ≤ rule.body.length := by
  have parsedPowerful :
      Rule.parse true "~x.y,A.b,localhost#?#c".toList =
        .ok (.content (ofParts "~x.y,A.b,localhost#?#c".toList
          ⟨"~x.y,A.b,localhost".toList, .emulateHiding, ['c']⟩)) := by
    decide +kernel
  have parsedGeneric :
      Rule.parse true "##abc".toList =
        .ok (.content (ofParts "##abc".toList
          ⟨[], .hide, "abc".toList⟩)) := by
    decide +kernel
  have powerful :
      (ofParts "~x.y,A.b,localhost#?#c".toList
        ⟨"~x.y,A.b,localhost".toList, .emulateHiding, ['c']⟩).action =
          .emulateHiding := by
    decide +kernel
  have hides :
      (ofParts "##abc".toList ⟨[], .hide, "abc".toList⟩).action =
        .hide := by
    decide +kernel
  have generic :
      (ofParts "##abc".toList
        ⟨[], .hide, "abc".toList⟩).restriction.isGeneric = true := by
    decide +kernel
  obtain ⟨onlyIncluded, _⟩ := contained_of_parse parsedPowerful
  obtain ⟨_, longEnough⟩ := contained_of_parse parsedGeneric
  exact
    ⟨⟨_, parsedPowerful, powerful, onlyIncluded (Or.inl powerful)⟩,
      _, parsedGeneric, hides, generic, longEnough (Or.inl hides) generic⟩

end ContentRule

end AdFilter
