import Mathlib
import AdFilter.ContentType

namespace AdFilter

/-!
# Masks bit by bit

Every operation on masks is described by what it does to a single bit, so that facts about masks become facts about
positions.
-/

namespace TypeMask

/-- Whether a mask has the bit at a position. -/
def HasBit (mask : TypeMask) (position : Nat) : Prop :=
  mask.bits.testBit position = true

variable {first second : TypeMask} {position : Nat}

@[simp] theorem not_hasBit_empty :
    ¬ empty.HasBit position := by
  simp [HasBit, empty]

@[simp] theorem hasBit_ofType_iff
    {contentType : ContentType} :
    (ofType contentType).HasBit position ↔ position = contentType.bit := by
  rw [HasBit, ofType, Nat.one_shiftLeft, Nat.testBit_two_pow,
    decide_eq_true_eq]
  exact eq_comm

@[simp] theorem hasBit_union_iff :
    (first.union second).HasBit position ↔
      first.HasBit position ∨ second.HasBit position := by
  simp [HasBit, union]

@[simp] theorem hasBit_inter_iff :
    (first.inter second).HasBit position ↔
      first.HasBit position ∧ second.HasBit position := by
  simp [HasBit, inter]

@[simp] theorem hasBit_diff_iff :
    (first.diff second).HasBit position ↔
      first.HasBit position ∧ ¬ second.HasBit position := by
  simp only [HasBit, diff, Nat.testBit_xor, Nat.testBit_and]
  cases first.bits.testBit position <;>
    cases second.bits.testBit position <;> decide

@[simp] theorem hasBit_resources_iff :
    resources.HasBit position ↔ position < resourceBits := by
  simp [HasBit, resources, Nat.one_shiftLeft, Nat.testBit_two_pow_sub_one]

/-- An excluded type loses its bit only if it is a resource. -/
@[simp] theorem hasBit_exclude_iff :
    (first.exclude second).HasBit position ↔
      first.HasBit position ∧
        ¬ (second.HasBit position ∧ position < resourceBits) := by
  simp [exclude]

/-- Two masks overlap exactly if they share a bit. -/
theorem overlaps_iff :
    first.overlaps second = true ↔
      ∃ position, first.HasBit position ∧ second.HasBit position := by
  rw [overlaps, bne_iff_ne]
  constructor
  · intro notEmpty
    obtain ⟨position, bit⟩ := Nat.exists_testBit_of_ne_zero notEmpty
    exact ⟨position, hasBit_inter_iff.mp bit⟩
  · intro shared isEmpty
    obtain ⟨position, bits⟩ := shared
    have bit : (first.inter second).HasBit position :=
      hasBit_inter_iff.mpr bits
    simp [HasBit, isEmpty] at bit

/-- A mask without bits from a position on is a number below that power of two. -/
theorem bits_lt_of_forall
    {mask : TypeMask}
    {bound : Nat}
    (below : ∀ position, mask.HasBit position → position < bound) :
    mask.bits < 2 ^ bound := by
  apply Nat.lt_pow_two_of_testBit
  intro position beyond
  by_contra bit
  have isSet : mask.HasBit position := by
    simpa [HasBit] using bit
  exact absurd (below position isSet) (Nat.not_lt.mpr beyond)

end TypeMask

end AdFilter
