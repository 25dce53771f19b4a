import AdFilter.Proofs.LetterCase

namespace AdFilter

/-!
# Lowering twice

A text in lower case stays as it is when it is lowered again.  No entry of the table of lower-case forms leads to a
character that has another form by the table, and no lowered text has one of the two characters that are not mapped on
their own.  The texts in lower case are therefore those whose characters are their own lower-case forms.
-/

/--
Whether no code point that an entry leads to belongs to another one: all are smaller, all are greater, or both have every
second code point and do not meet.
-/
def CaseRange.isApartFrom (other range : CaseRange) : Bool :=
  let first := (range.first + range.offset).toNat
  let last := (range.last + range.offset).toNat
  last.blt other.first || other.last.blt first ||
    ((range.stride.beq 2 || range.first.beq range.last) &&
      other.stride.beq 2 && ((first + other.first) % 2).beq 1)

namespace Text

variable {c : Char} {text : Text} {afterCased : Bool}

/-! ## Single characters -/

/-- No entry of the table leads to a code point of another one. -/
theorem lowerCaseRanges_apart :
    ∀ range ∈ lowerCaseRanges,
      lowerCaseRanges.all (·.isApartFrom range) = true := by
  decide +kernel

/-- The entries lead to code points, and those that lead to ASCII lead to small letters. -/
theorem lowerCaseRanges_ascii :
    ∀ range ∈ lowerCaseRanges,
      0 ≤ range.first + range.offset ∧
        (range.first + range.offset < 0x80 →
          range.first = range.last ∧
            (Char.ofNat (range.first + range.offset).toNat).toLower =
              Char.ofNat (range.first + range.offset).toNat) := by
  decide +kernel

/-- What an entry of the table leads to has no other form by any entry. -/
theorem lowerPoint?_eq_none_of_lowerPoint?
    {range other : CaseRange}
    (member : range ∈ lowerCaseRanges)
    (otherMember : other ∈ lowerCaseRanges)
    {point lowered : Nat}
    (found : range.lowerPoint? point = some lowered) :
    other.lowerPoint? lowered = none := by
  simp only [CaseRange.lowerPoint?, Option.ite_none_right_eq_some,
    Option.some.injEq] at found
  obtain ⟨⟨afterFirst, beforeLast, onStride⟩, rfl⟩ := found
  have isPoint := (lowerCaseRanges_ascii range member).1
  have apart :=
    List.all_eq_true.mp (lowerCaseRanges_apart range member) other
      otherMember
  simp only [CaseRange.isApartFrom, Bool.or_eq_true, Bool.and_eq_true,
    Nat.blt_eq, Nat.beq_eq] at apart
  rw [CaseRange.lowerPoint?, if_neg]
  rintro ⟨otherFirst, otherLast, otherStride⟩
  rcases apart with (before | after) | ⟨⟨isEven | single, otherIsEven⟩, odd⟩
  · omega
  · omega
  · rw [isEven] at onStride
    rw [otherIsEven] at otherStride
    omega
  · rw [otherIsEven] at otherStride
    omega

theorem lowerChar_ofNat_of_lowerPoint?
    {range : CaseRange}
    (member : range ∈ lowerCaseRanges)
    {point lowered : Nat}
    (found : range.lowerPoint? point = some lowered) :
    lowerChar (Char.ofNat lowered) = Char.ofNat lowered := by
  have noOther :
      lowerCaseRanges.findSome? (CaseRange.lowerPoint? · lowered) = none :=
    List.findSome?_eq_none_iff.mpr fun other otherMember =>
      lowerPoint?_eq_none_of_lowerPoint? member otherMember found
  simp only [CaseRange.lowerPoint?, Option.ite_none_right_eq_some,
    Option.some.injEq] at found
  obtain ⟨⟨afterFirst, beforeLast, _⟩, rfl⟩ := found
  obtain ⟨_, noSurrogate⟩ := lowerCaseRanges_forms range member
  have valid : (point + range.offset).toNat.isValidChar := by
    simp only [Nat.isValidChar]
    omega
  by_cases ascii : (point + range.offset).toNat < 0x80
  · have isAscii : range.first + range.offset < 0x80 := by
      omega
    obtain ⟨single, kept⟩ :=
      (lowerCaseRanges_ascii range member).2 isAscii
    have same : point = range.first := by
      omega
    rw [lowerChar_of_ascii (by rwa [toNat_ofNat valid]), same, kept]
  · rw [lowerChar, toNat_ofNat valid, if_neg ascii, noOther]

/-- The lower-case form of a character is its own lower-case form. -/
theorem lowerChar_lowerChar
    (c : Char) :
    lowerChar (lowerChar c) = lowerChar c := by
  by_cases ascii : c.toNat < 0x80
  · rw [lowerChar_of_ascii ascii, lowerChar_of_ascii (toNat_toLower_lt ascii),
      Char.toLower_toLower_eq_toLower]
  · rw [lowerChar.eq_def c, if_neg ascii]
    cases found : lowerCaseRanges.findSome? (CaseRange.lowerPoint? · c.toNat) with
    | none =>
        simp only [lowerChar, if_neg ascii, found]
    | some lowered =>
        obtain ⟨range, member, here⟩ := List.exists_of_findSome?_eq_some found
        exact lowerChar_ofNat_of_lowerPoint? member here

/-! ## Texts -/

/-- What stands in a lowered text is in lower case. -/
theorem lowerChar_of_mem_lowerFrom
    (member : c ∈ lowerFrom afterCased text) :
    lowerChar c = c := by
  induction text generalizing afterCased with
  | nil =>
      cases member
  | cons first rest inductionHypothesis =>
      rw [lowerFrom, List.mem_append] at member
      rcases member with isForm | inRest
      · split at isForm
        · simp only [List.mem_cons, List.not_mem_nil, or_false] at isForm
          rcases isForm with rfl | rfl <;> decide +kernel
        · split at isForm
          · rw [List.mem_singleton] at isForm
            subst isForm
            split <;> decide +kernel
          · rw [List.mem_singleton] at isForm
            rw [isForm, lowerChar_lowerChar]
      · exact inductionHypothesis inRest

/-- A text whose characters are in lower case is kept. -/
theorem lowerFrom_of_forall_lowerChar
    (lowered : ∀ c ∈ text, lowerChar c = c)
    (afterCased : Bool) :
    lowerFrom afterCased text = text := by
  have dotted : lowerChar 'İ' ≠ 'İ' := by
    decide +kernel
  have sigma : lowerChar 'Σ' ≠ 'Σ' := by
    decide +kernel
  induction text generalizing afterCased with
  | nil =>
      rfl
  | cons first rest inductionHypothesis =>
      have kept := lowered first List.mem_cons_self
      have notDotted : first ≠ 'İ' := by
        rintro rfl
        exact dotted kept
      have notSigma : first ≠ 'Σ' := by
        rintro rfl
        exact sigma kept
      rw [lowerFrom, if_neg notDotted, if_neg notSigma, kept,
        inductionHypothesis fun c member =>
          lowered c (List.mem_cons_of_mem first member)]
      rfl

/-- The texts in lower case are those whose characters are. -/
theorem lower_eq_self_iff :
    lower text = text ↔ ∀ c ∈ text, lowerChar c = c := by
  constructor
  · intro lowered c member
    rw [← lowered] at member
    exact lowerChar_of_mem_lowerFrom member
  · intro lowered
    exact lowerFrom_of_forall_lowerChar lowered false

/-- The lower-case form of a text is its own lower-case form. -/
theorem lower_lower
    (text : Text) :
    lower (lower text) = lower text :=
  lower_eq_self_iff.mpr fun _ member => lowerChar_of_mem_lowerFrom member

/-- Every part of a text in lower case is in lower case. -/
theorem lower_eq_self_of_subset
    {part : Text}
    (lowered : lower text = text)
    (inside : part ⊆ text) :
    lower part = part :=
  lower_eq_self_iff.mpr fun c member =>
    lower_eq_self_iff.mp lowered c (inside member)

/-- A sigma at the end of a word has a small form of its own, and keeps it. -/
example :
    lower "ΟΔΟΣ İx".toList = "οδος i\u0307x".toList ∧
      lower "οδος i\u0307x".toList = "οδος i\u0307x".toList := by
  decide +kernel

/-- A lowered text has a character at least for each one of the text. -/
theorem length_le_length_lowerFrom
    (afterCased : Bool)
    (text : Text) :
    text.length ≤ (lowerFrom afterCased text).length := by
  induction text generalizing afterCased with
  | nil =>
      exact Nat.le_refl 0
  | cons first rest inductionHypothesis =>
      have shorter :=
        inductionHypothesis
          (if isCaseIgnorable first then afterCased else isCased first)
      have someForm :
          1 ≤
            (if first = 'İ' then ['i', '\u0307']
              else if first = 'Σ' then
                [if afterCased && !beginsCased rest then 'ς' else 'σ']
              else [lowerChar first]).length := by
        split
        · decide
        · split <;> exact Nat.le_refl 1
      rw [lowerFrom, List.length_append, List.length_cons]
      omega

/-- A mark stands in a lowered text only if it stands in the text. -/
theorem mem_of_mem_lowerFrom_of_isMark
    {mark : Char}
    (isOne : isMark mark = true)
    (member : mark ∈ lowerFrom afterCased text) :
    mark ∈ text := by
  induction text generalizing afterCased with
  | nil =>
      cases member
  | cons first rest inductionHypothesis =>
      rw [lowerFrom, List.mem_append] at member
      rcases member with isForm | inRest
      · split at isForm
        · simp only [List.mem_cons, List.not_mem_nil, or_false] at isForm
          rcases isForm with rfl | rfl <;> exact absurd isOne (by decide)
        · split at isForm
          · rw [List.mem_singleton] at isForm
            rw [isForm] at isOne
            split at isOne <;> exact absurd isOne (by decide)
          · rw [List.mem_singleton] at isForm
            rw [isForm] at isOne ⊢
            rw [eq_of_isMark_lowerChar isOne]
            exact List.mem_cons_self
      · exact List.mem_cons_of_mem first (inductionHypothesis inRest)

end Text

end AdFilter
