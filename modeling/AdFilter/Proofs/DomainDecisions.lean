import AdFilter.Proofs.DomainSuffixes
import AdFilter.Proofs.TextMaps

namespace AdFilter

/-!
# Which entry of a list of domains decides

What a map of domains says of a domain is said here by the entries that it was made from: of those that name the domain
or a parent of it, the ones with the longest name count, and of these the last one decides.
-/

namespace Domain

variable {entries : List Text} {entry domain name : Text} {included : Bool}

/-- An entry of a list names a domain in any letter case, and excludes it if there is a tilde in front. -/
inductive Names : Text → Text → Bool → Prop where
  | included
      {entry : Text}
      (notEmpty : entry ≠ [])
      (noTilde : entry.head? ≠ some '~') :
      Names entry (Text.lower entry) true
  | excluded
      {name : Text}
      (notEmpty : name ≠ []) :
      Names ('~' :: name) (Text.lower name) false

theorem ofEntry?_eq_some_iff :
    ofEntry? entry = some (name, included) ↔ Names entry name included := by
  constructor
  · intro read
    unfold ofEntry? at read
    split at read
    · cases read
    · cases read
    · rename_i notBare
      cases read
      exact .excluded fun isEmpty => notBare (by rw [isEmpty])
    · rename_i notEmpty _ noTilde
      cases read
      refine .included notEmpty ?_
      cases entry with
      | nil =>
          exact nofun
      | cons first rest =>
          rintro ⟨⟩
          exact noTilde rest rfl
  · intro names
    cases names with
    | included notEmpty noTilde =>
        unfold ofEntry?
        split <;> simp_all
    | excluded notEmpty =>
        unfold ofEntry?
        split <;> simp_all

theorem ofEntry?_eq_none_iff :
    ofEntry? entry = none ↔ entry = [] ∨ entry = ['~'] := by
  unfold ofEntry?
  split <;> simp_all

/-- Of the entries that name a domain, the last one includes or excludes it. -/
def LastNames (entries : List Text) (name : Text) (included : Bool) : Prop :=
  ∃ earlier entry later,
    entries = earlier ++ entry :: later ∧
      Names entry name included ∧
      ∀ other ∈ later, ∀ otherIncluded, ¬ Names other name otherIncluded

/-- The last entry for the longest name that covers a domain includes or excludes it. -/
structure Decides
    (entries : List Text)
    (domain name : Text)
    (included : Bool) : Prop where
  covers : Covers name (Text.lower domain)
  last : LastNames entries name included
  longest :
    ∀ entry ∈ entries, ∀ other otherIncluded,
      Names entry other otherIncluded →
      Covers other (Text.lower domain) →
      other.length ≤ name.length

/-- No entry names a domain or a parent of it. -/
def Undecided (entries : List Text) (domain : Text) : Prop :=
  ∀ entry ∈ entries, ∀ name included,
    Names entry name included → ¬ Covers name (Text.lower domain)

end Domain

namespace DomainMap

open Domain

variable {entries : List Text} {domain name : Text} {included : Bool}

/-- A map of domains holds what the last entry for a name says. -/
theorem get?_ofEntries_eq_some_iff :
    (ofEntries entries).get? name = some included ↔
      LastNames entries name included := by
  rw [ofEntries, TextMap.get?_ofList_eq_some_iff]
  constructor
  · rintro ⟨earlier, later, read, noneLater⟩
    obtain ⟨front, back, rfl, rfl, readBack⟩ :=
      List.filterMap_eq_append_iff.mp read
    obtain ⟨skipped, entry, rest, rfl, _, readEntry, rfl⟩ :=
      List.filterMap_eq_cons_iff.mp readBack
    refine
      ⟨front ++ skipped, entry, rest, by simp,
        ofEntry?_eq_some_iff.mp readEntry, ?_⟩
    intro other isLater otherIncluded names
    have readOther := ofEntry?_eq_some_iff.mpr names
    exact
      noneLater (name, otherIncluded)
        (List.mem_filterMap.mpr ⟨other, isLater, readOther⟩) rfl
  · rintro ⟨earlier, entry, later, rfl, names, noneLater⟩
    refine
      ⟨earlier.filterMap ofEntry?, later.filterMap ofEntry?, ?_, ?_⟩
    · rw [List.filterMap_append,
        List.filterMap_cons_some (ofEntry?_eq_some_iff.mpr names)]
    · rintro ⟨other, otherIncluded⟩ isLater rfl
      obtain ⟨later, member, read⟩ := List.mem_filterMap.mp isLater
      exact
        noneLater later member otherIncluded (ofEntry?_eq_some_iff.mp read)

theorem get?_ofEntries_eq_none_iff :
    (ofEntries entries).get? name = none ↔
      ∀ entry ∈ entries, ∀ included, ¬ Names entry name included := by
  rw [ofEntries, TextMap.get?_ofList_eq_none_iff]
  constructor
  · intro noneOfThem entry member included names
    have read := ofEntry?_eq_some_iff.mpr names
    exact
      noneOfThem (name, included)
        (List.mem_filterMap.mpr ⟨entry, member, read⟩) rfl
  · rintro noneOfThem ⟨other, included⟩ isRead rfl
    obtain ⟨entry, member, read⟩ := List.mem_filterMap.mp isRead
    exact
      noneOfThem entry member included (ofEntry?_eq_some_iff.mp read)

theorem isEmpty_ofEntries_iff :
    (ofEntries entries).isEmpty = true ↔
      ∀ entry ∈ entries, entry = [] ∨ entry = ['~'] := by
  rw [ofEntries, TextMap.isEmpty_ofList_iff, List.filterMap_eq_nil_iff]
  simp only [ofEntry?_eq_none_iff]

theorem decision?_ofEntries_eq_some_iff :
    (ofEntries entries).decision? domain = some included ↔
      ∃ name, Decides entries domain name included := by
  rw [decision?_eq_some_iff]
  constructor
  · rintro ⟨name, covers, found, noneLonger⟩
    refine ⟨name, covers, get?_ofEntries_eq_some_iff.mp found, ?_⟩
    intro entry member other otherIncluded names otherCovers
    by_contra isLonger
    have missing := noneLonger other otherCovers (not_le.mp isLonger)
    exact
      get?_ofEntries_eq_none_iff.mp missing entry member otherIncluded names
  · rintro ⟨name, covers, last, longest⟩
    refine ⟨name, covers, get?_ofEntries_eq_some_iff.mpr last, ?_⟩
    intro longer longerCovers isLonger
    refine get?_ofEntries_eq_none_iff.mpr ?_
    intro entry member otherIncluded names
    have atMost := longest entry member longer otherIncluded names longerCovers
    exact absurd isLonger (not_lt.mpr atMost)

theorem decision?_ofEntries_eq_none_iff :
    (ofEntries entries).decision? domain = none ↔
      Undecided entries domain := by
  rw [decision?_eq_none_iff]
  constructor
  · intro noneCovering entry member name included names covers
    have missing := noneCovering name covers
    exact get?_ofEntries_eq_none_iff.mp missing entry member included names
  · intro undecided name covers
    refine get?_ofEntries_eq_none_iff.mpr ?_
    intro entry member included names
    exact undecided entry member name included names covers

end DomainMap

end AdFilter
