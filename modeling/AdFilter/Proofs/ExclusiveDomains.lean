import AdFilter.Proofs.ContentContainment
import AdFilter.Proofs.RepeatedLowering

namespace AdFilter

/-!
# Rules for one domain only

Whether a rule is for a domain only is decided by looking the domain up, as if it were asked where the rule is active.  What
else the rule includes is not looked at.  What is said here is when the answer means what it seems to mean: that the rule
is active on no document outside of the domain.
-/

namespace Domain

variable {name domain : Text} {length : Nat}

/-- The names that a domain is looked up under are in lower case. -/
theorem Covers.lower_eq_self
    (covers : Covers name (Text.lower domain)) :
    Text.lower name = name :=
  Text.lower_eq_self_of_subset (Text.lower_lower domain)
    covers.suffix.subset

/-! ## Domains with an empty label -/

/-- A domain with a label of some length and an empty one after it. -/
def withEmptyLabel (length : Nat) : Text :=
  List.replicate length 'z' ++ ['.']

theorem withEmptyLabel_injective :
    Function.Injective withEmptyLabel := by
  intro first second same
  simpa [withEmptyLabel] using congrArg List.length same

theorem lower_withEmptyLabel
    (length : Nat) :
    Text.lower (withEmptyLabel length) = withEmptyLabel length := by
  refine Text.lower_eq_self_iff.mpr ?_
  intro c member
  rcases List.mem_append.mp member with inLabel | isPoint
  · rw [List.eq_of_mem_replicate inLabel]
    decide
  · rw [List.mem_singleton.mp isPoint]
    decide

/-- A domain with an empty label has no other parent than the empty name. -/
theorem covers_withEmptyLabel_iff :
    Covers name (withEmptyLabel length) ↔
      name = withEmptyLabel length ∨ name = [] := by
  rw [Covers, eq_comm]
  refine or_congr_right ?_
  constructor
  · intro below
    rcases List.eq_nil_or_concat name with isEmpty | ⟨front, last, rfl⟩
    · exact isEmpty
    · -- A point before the last character would stand in the label.
      exfalso
      obtain ⟨earlier, shape⟩ := below
      have label : earlier ++ '.' :: front = List.replicate length 'z' := by
        rw [withEmptyLabel, List.concat_eq_append, ← List.cons_append,
          ← List.append_assoc] at shape
        exact (List.append_inj' shape rfl).1
      have inLabel : '.' ∈ List.replicate length 'z' := by
        rw [← label]
        simp
      exact absurd (List.eq_of_mem_replicate inLabel) (by decide)
  · rintro rfl
    exact List.suffix_append _ _

/-- There is a domain with an empty label that is none of some names. -/
theorem exists_withEmptyLabel_not_mem
    (names : List Text) :
    ∃ length, withEmptyLabel length ∉ names := by
  obtain ⟨_, ⟨length, rfl⟩, isNew⟩ :=
    (Set.infinite_range_of_injective
      withEmptyLabel_injective).exists_notMem_finset names.toFinset
  exact ⟨length, by simpa using isNew⟩

end Domain

/-! ## What a name decides -/

namespace DomainMap

open Domain

variable {domains : DomainMap} {name parent domain : Text} {included : Bool}

theorem isEmpty_eq_false_of_decision?
    (decided : domains.decision? domain = some included) :
    domains.isEmpty = false := by
  obtain ⟨name, _, found, _⟩ := decision?_eq_some_iff.mp decided
  cases entries : domains.entries with
  | nil =>
      simp [TextMap.get?, entries] at found
  | cons first rest =>
      simp [TextMap.isEmpty, entries]

/-- A name in lower case decides about the domain that it is. -/
theorem decision?_of_get?
    (lowered : Text.lower name = name)
    (found : domains.get? name = some included) :
    domains.decision? name = some included := by
  refine decision?_eq_some_iff.mpr ⟨name, Or.inl lowered, found, ?_⟩
  intro longer covers isLonger
  rw [lowered] at covers
  exact absurd covers.suffix.length_le (Nat.not_le.mpr isLonger)

/-- The empty name decides about some domain outside of any other domain. -/
theorem exists_decided_by_empty
    (found : domains.get? [] = some included)
    (parentKnown : parent ≠ []) :
    ∃ domain, domain ≠ [] ∧ ¬ Domain.Covers parent (Text.lower domain) ∧
      domains.decision? domain = some included := by
  obtain ⟨length, isNew⟩ :=
    exists_withEmptyLabel_not_mem (parent :: domains.keys)
  rw [List.mem_cons, not_or] at isNew
  refine ⟨withEmptyLabel length, by simp [withEmptyLabel], ?_, ?_⟩
  · rw [lower_withEmptyLabel, covers_withEmptyLabel_iff, not_or]
    exact ⟨Ne.symm isNew.1, parentKnown⟩
  · rw [decision?_eq_some_iff, lower_withEmptyLabel]
    refine ⟨[], covers_withEmptyLabel_iff.mpr (Or.inr rfl), found, ?_⟩
    intro longer covers isLonger
    rcases covers_withEmptyLabel_iff.mp covers with rfl | rfl
    · rw [TextMap.mem_keys_iff] at isNew
      simpa using isNew.2
    · exact absurd isLonger (Nat.lt_irrefl _)

/-- A name outside of a domain decides about some document outside of it. -/
theorem exists_decided_outside
    (lowered : Text.lower name = name)
    (found : domains.get? name = some included)
    (outside : ¬ Domain.Covers parent name)
    (parentKnown : parent ≠ []) :
    ∃ domain, domain ≠ [] ∧ ¬ Domain.Covers parent (Text.lower domain) ∧
      domains.decision? domain = some included := by
  by_cases isEmpty : name = []
  · rw [isEmpty] at found
    exact exists_decided_by_empty found parentKnown
  · refine ⟨name, isEmpty, ?_, decision?_of_get? lowered found⟩
    rwa [lowered]

end DomainMap

/-! ## Rules without keys -/

namespace Restriction

variable {restriction : Restriction} {domain : Text}

/-- The names that a rule includes are a domain and its subdomains, as far as documents are looked up under them. -/
def IncludesOnlyWithin (restriction : Restriction) (domain : Text) : Prop :=
  ∀ name,
    Text.lower name = name →
    restriction.domains.get? name = some true →
      Domain.Covers (Text.lower domain) name

theorem decisionFor?_of_ne_nil
    (known : domain ≠ []) :
    restriction.decisionFor? (some domain) =
      restriction.domains.decision? domain := by
  cases domain with
  | nil =>
      exact absurd rfl known
  | cons first rest =>
      rfl

/-- A rule counts as one for a domain only if it names domains and is active on that one. -/
theorem isActiveOnlyOn_iff
    (noKeys : restriction.sitekeys = none)
    (known : domain ≠ [])
    (sitekey : Option Text) :
    restriction.isActiveOnlyOn domain = true ↔
      restriction.domains.isEmpty = false ∧
        restriction.isActive (some domain) sitekey = true := by
  have decided_iff :
      restriction.isActiveOnlyOn domain = true ↔
        restriction.domains.decision? domain = some true := by
    rw [isActiveOnlyOn]
    cases restriction.domains.decision? domain <;> simp
  rw [decided_iff, ← decisionFor?_of_ne_nil known]
  constructor
  · intro decided
    have named : restriction.domains.isEmpty = false := by
      rw [decisionFor?_of_ne_nil known] at decided
      exact DomainMap.isEmpty_eq_false_of_decision? decided
    exact ⟨named, (isActive_iff_of_no_keys noKeys named).mpr decided⟩
  · rintro ⟨named, active⟩
    exact (isActive_iff_of_no_keys noKeys named).mp active

/-- A rule with names is active on no document outside of a domain exactly if it includes no name outside of it. -/
theorem inactive_outside_iff
    (noKeys : restriction.sitekeys = none)
    (named : restriction.domains.isEmpty = false)
    (known : domain ≠ [])
    (sitekey : Option Text) :
    (∀ other, ¬ Domain.Covers (Text.lower domain) (Text.lower other) →
        restriction.isActive (some other) sitekey = false) ↔
      restriction.IncludesOnlyWithin domain := by
  simp only [Bool.eq_false_iff, ne_eq,
    isActive_iff_of_no_keys noKeys named]
  constructor
  · intro inactive name lowered found
    by_contra outside
    have parentKnown : Text.lower domain ≠ [] := by
      intro isEmpty
      have longer := Text.length_le_length_lowerFrom false domain
      rw [← Text.lower, isEmpty] at longer
      exact known (List.length_eq_zero_iff.mp (Nat.le_zero.mp longer))
    obtain ⟨other, otherKnown, otherOutside, decided⟩ :=
      DomainMap.exists_decided_outside lowered found outside parentKnown
    rw [← decisionFor?_of_ne_nil otherKnown] at decided
    exact inactive other otherOutside decided
  · intro within other outside decided
    by_cases otherKnown : other = []
    · rw [otherKnown] at decided
      cases decided
    · rw [decisionFor?_of_ne_nil otherKnown] at decided
      obtain ⟨name, covers, found, _⟩ :=
        DomainMap.decision?_eq_some_iff.mp decided
      exact outside ((within name covers.lower_eq_self found).trans covers)

/--
A rule without keys counts as one for a domain only exactly if it names domains and is active on that one.  It then is
inactive on all documents outside of the domain exactly if it includes no name outside of it, which is not looked at.
-/
theorem isActiveOnlyOn_exclusive_iff
    (noKeys : restriction.sitekeys = none)
    (known : domain ≠ [])
    (sitekey : Option Text) :
    (restriction.isActiveOnlyOn domain = true ↔
        restriction.domains.isEmpty = false ∧
          restriction.isActive (some domain) sitekey = true) ∧
      (restriction.isActiveOnlyOn domain = true →
        ((∀ other,
            ¬ Domain.Covers (Text.lower domain) (Text.lower other) →
              restriction.isActive (some other) sitekey = false) ↔
          restriction.IncludesOnlyWithin domain)) := by
  have only_iff := isActiveOnlyOn_iff noKeys known sitekey
  refine ⟨only_iff, ?_⟩
  intro only
  exact inactive_outside_iff noKeys (only_iff.mp only).1 known sitekey

/-- A rule for a domain without one of its subdomains is inactive on all documents outside of the domain. -/
theorem isActiveOnlyOn_exclusive_of_nested :
    ∃ rule : ContentRule,
      Rule.parse true "A.b,~x.a.b##.ad".toList = .ok (.content rule) ∧
        rule.restriction.sitekeys = none ∧
        rule.restriction.isActiveOnlyOn "a.B".toList = true ∧
        ∀ other,
          ¬ Domain.Covers (Text.lower "a.B".toList) (Text.lower other) →
            rule.restriction.isActive (some other) none = false := by
  let rule :=
    ContentRule.ofParts "A.b,~x.a.b##.ad".toList
      ⟨"A.b,~x.a.b".toList, .hide, ".ad".toList⟩
  have parsed :
      Rule.parse true "A.b,~x.a.b##.ad".toList = .ok (.content rule) := by
    decide +kernel
  have entries :
      rule.restriction.domains =
        ⟨[("a.b".toList, true), ("x.a.b".toList, false)]⟩ := by
    decide +kernel
  have lowered : Text.lower "a.B".toList = "a.b".toList := by
    decide +kernel
  have only : rule.restriction.isActiveOnlyOn "a.B".toList = true := by
    decide +kernel
  have within : rule.restriction.IncludesOnlyWithin "a.B".toList := by
    intro name _ found
    rw [entries] at found
    have same : name = "a.b".toList := by
      simpa [TextMap.get?, TextMap.lookup_cons_ite] using found
    exact Or.inl (same.trans lowered.symm)
  exact
    ⟨rule, parsed, rfl, only,
      ((isActiveOnlyOn_exclusive_iff rfl (by decide) none).2 only).mpr
        within⟩

/-- A rule for two domains counts as one for the first only, and is active on the second, which is outside of it. -/
theorem isActiveOnlyOn_of_two_domains :
    ∃ rule : ContentRule,
      Rule.parse true "a.com,b.com##.ad".toList = .ok (.content rule) ∧
        rule.restriction.sitekeys = none ∧
        rule.restriction.isActiveOnlyOn "a.com".toList = true ∧
        ¬ Domain.Covers (Text.lower "a.com".toList)
          (Text.lower "b.com".toList) ∧
        rule.restriction.isActive (some "b.com".toList) none = true := by
  have parsed :
      Rule.parse true "a.com,b.com##.ad".toList =
        .ok (.content (ContentRule.ofParts "a.com,b.com##.ad".toList
          ⟨"a.com,b.com".toList, .hide, ".ad".toList⟩)) := by
    decide +kernel
  refine ⟨_, parsed, rfl, ?_, ?_, ?_⟩
  · decide +kernel
  · unfold Domain.Covers
    decide +kernel
  · decide +kernel

end Restriction

end AdFilter
