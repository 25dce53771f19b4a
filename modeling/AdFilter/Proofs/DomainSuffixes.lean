import AdFilter.Domain
import AdFilter.Proofs.TextPieces

namespace AdFilter

/-!
# A domain and its parents

The names that a domain is looked up under are the domain in lower case and what follows each of its points, from the
longest to the shortest.  A map of domains is asked for them in this order, so its longest name among them decides.
-/

namespace Domain

variable {name domain parent : Text}

/-- A name covers a domain: it is the domain, or what follows a point in it. -/
def Covers (name domain : Text) : Prop :=
  domain = name ∨ ('.' :: name) <:+ domain

instance (name domain : Text) : Decidable (Covers name domain) :=
  inferInstanceAs (Decidable (domain = name ∨ ('.' :: name) <:+ domain))

theorem Covers.suffix
    (covers : Covers name domain) :
    name <:+ domain := by
  rcases covers with rfl | below
  · exact List.suffix_refl domain
  · exact (List.suffix_cons '.' name).trans below

/-- What covers a parent of a domain covers the domain. -/
theorem Covers.trans
    (covers : Covers parent name)
    (coversToo : Covers name domain) :
    Covers parent domain := by
  rcases coversToo with rfl | below
  · exact covers
  · right
    rcases covers with rfl | above
    · exact below
    · exact above.trans ((List.suffix_cons '.' name).trans below)

/-- The names that a domain is looked up under are those that cover its lower-case form. -/
theorem mem_suffixes_iff :
    name ∈ suffixes domain ↔ Covers name (Text.lower domain) := by
  rw [suffixes, List.mem_cons, Text.mem_tailsAfter_iff, Covers, eq_comm]

/-- A name that ends a label without being one covers nothing. -/
example :
    Covers "b.c".toList "a.b.c".toList ∧
      ¬ Covers "b.c".toList "ab.c".toList := by
  decide

/-- A domain is looked up under longer names before shorter ones. -/
theorem pairwise_suffixes
    (domain : Text) :
    (suffixes domain).Pairwise
      fun longer shorter => shorter.length < longer.length :=
  .cons (fun _ => Text.length_lt_of_mem_tailsAfter)
    (Text.pairwise_tailsAfter '.' (Text.lower domain))

/-- A domain is looked up under one name more than its lower-case form has points. -/
theorem length_suffixes
    (domain : Text) :
    (suffixes domain).length = (Text.lower domain).count '.' + 1 := by
  rw [suffixes, List.length_cons, Text.length_tailsAfter]

end Domain

namespace DomainMap

variable {domains : DomainMap} {domain : Text} {included : Bool}

/-- The longest name that covers a domain decides about it. -/
theorem decision?_eq_some_iff :
    domains.decision? domain = some included ↔
      ∃ name,
        Domain.Covers name (Text.lower domain) ∧
          domains.get? name = some included ∧
          ∀ longer, Domain.Covers longer (Text.lower domain) →
            name.length < longer.length → domains.get? longer = none := by
  simp only [← Domain.mem_suffixes_iff]
  have decreasing := Domain.pairwise_suffixes domain
  rw [decision?, List.findSome?_eq_some_iff]
  constructor
  · rintro ⟨before, name, after, shape, found, noneBefore⟩
    rw [shape] at decreasing ⊢
    obtain ⟨_, fromHere, _⟩ := List.pairwise_append.mp decreasing
    refine ⟨name, by simp, found, ?_⟩
    intro longer member isLonger
    rcases List.mem_append.mp member with isBefore | isAfter
    · exact noneBefore longer isBefore
    · exfalso
      rcases List.mem_cons.mp isAfter with rfl | isAfter
      · omega
      · have := List.rel_of_pairwise_cons fromHere isAfter
        omega
  · rintro ⟨name, member, found, noneLonger⟩
    obtain ⟨before, after, shape⟩ := List.mem_iff_append.mp member
    rw [shape] at decreasing
    obtain ⟨_, _, apart⟩ := List.pairwise_append.mp decreasing
    refine ⟨before, name, after, shape, found, ?_⟩
    intro longer isBefore
    exact
      noneLonger longer (by simp [shape, isBefore])
        (apart longer isBefore name (by simp))

/-- Nothing is decided about a domain that no name covers. -/
theorem decision?_eq_none_iff :
    domains.decision? domain = none ↔
      ∀ name, Domain.Covers name (Text.lower domain) →
        domains.get? name = none := by
  simp only [← Domain.mem_suffixes_iff]
  exact List.findSome?_eq_none_iff

end DomainMap

end AdFilter
