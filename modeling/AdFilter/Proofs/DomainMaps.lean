import AdFilter.Proofs.DomainDecisions
import AdFilter.Proofs.RepeatedLowering

namespace AdFilter

/-!
# The keys of domain maps

A map of domains has no keys but those that the entries of its source name.  They are in lower case, and they hold none
of the characters that the source is split at.
-/

namespace DomainMap

variable {separator : Char} {source key : Text}

/-- An entry names a domain by a part of it that is not empty, in lower case. -/
theorem exists_name_of_ofEntry?
    {entry : Text}
    {assignment : Text × Bool}
    (found : Domain.ofEntry? entry = some assignment) :
    ∃ name, name ≠ [] ∧ (∀ c ∈ name, c ∈ entry) ∧
      assignment.1 = Text.lower name := by
  obtain ⟨key, included⟩ := assignment
  cases Domain.ofEntry?_eq_some_iff.mp found with
  | included notEmpty _ =>
      exact ⟨entry, notEmpty, fun c member => member, rfl⟩
  | @excluded name notEmpty =>
      exact
        ⟨name, notEmpty, fun c member => List.mem_cons_of_mem '~' member, rfl⟩

/-- A key of a map is the lower-case form of a name in its source, which does not reach past a separator. -/
theorem exists_name_of_mem_keys
    (member : key ∈ (ofSource separator source).keys) :
    ∃ name, name ≠ [] ∧
      (∀ c ∈ name, c ∈ source ∧ c ≠ separator) ∧
      key = Text.lower name := by
  obtain ⟨assignment, isAssignment, rfl⟩ :=
    TextMap.mem_keys_of_mem_ofList member
  obtain ⟨entry, isEntry, found⟩ := List.mem_filterMap.mp isAssignment
  obtain ⟨name, notEmpty, inEntry, shape⟩ := exists_name_of_ofEntry? found
  exact
    ⟨name, notEmpty,
      fun c inName => Text.mem_of_mem_splitOn isEntry (inEntry c inName),
      shape⟩

/-- A key of a domain map: not empty, in lower case and without the mark between entries. -/
structure IsKey (separator : Char) (key : Text) : Prop where
  notEmpty : key ≠ []
  lowerCase : Text.lower key = key
  noSeparator : separator ∉ key

/-- The keys of the map of a source of ASCII have the form of keys. -/
theorem isKey_of_mem_keys
    (ascii : ∀ c ∈ source, c.toNat < 0x80)
    (isMark : Text.isMark separator = true)
    (member : key ∈ (ofSource separator source).keys) :
    IsKey separator key := by
  obtain ⟨name, notEmpty, chars, rfl⟩ := exists_name_of_mem_keys member
  have nameAscii : ∀ c ∈ name, c.toNat < 0x80 :=
    fun c inName => ascii c (chars c inName).1
  refine ⟨?_, Text.lower_lower name, ?_⟩
  · rw [Text.lower_of_ascii nameAscii]
    simpa using notEmpty
  · intro inLower
    have inName := Text.mem_of_mem_lowerFrom_of_isMark isMark inLower
    exact (chars separator inName).2 rfl

end DomainMap

end AdFilter
