import Mathlib
import AdFilter.Text.Case

namespace AdFilter

/-!
# Letter case and ASCII marks

The marks that patterns and addresses are structured by are ASCII characters that are no letters.  Letter case never
confuses them with other characters: the tables of letters beyond ASCII lead to ASCII letters or stay beyond ASCII.
What the tables say is checked once for all of their entries.
-/

/-- A property of all ASCII characters can be checked code point by code point. -/
theorem ascii_of_forall_point
    (Holds : Char → Prop)
    (checked : ∀ point < 0x80, Holds (Char.ofNat point))
    {c : Char}
    (ascii : c.toNat < 0x80) :
    Holds c := by
  have checkedHere := checked c.toNat ascii
  rwa [Char.ofNat_toNat] at checkedHere

theorem char_le_iff
    {first second : Char} :
    first ≤ second ↔ first.toNat ≤ second.toNat := by
  rw [Char.le_def, UInt32.le_iff_toNat_le]
  rfl

theorem toNat_lt_of_isAlpha
    {c : Char}
    (letter : c.isAlpha = true) :
    c.toNat < 0x80 := by
  simp only [Char.isAlpha, Char.isUpper, Char.isLower, Bool.or_eq_true,
    Bool.and_eq_true, decide_eq_true_eq, ge_iff_le,
    UInt32.le_iff_toNat_le] at letter
  change
    (65 ≤ c.toNat ∧ c.toNat ≤ 90) ∨
      (97 ≤ c.toNat ∧ c.toNat ≤ 122) at letter
  omega

theorem toNat_lt_of_isDigit
    {c : Char}
    (digit : c.isDigit = true) :
    c.toNat < 0x80 := by
  simp only [Char.isDigit, Bool.and_eq_true, decide_eq_true_eq, ge_iff_le,
    UInt32.le_iff_toNat_le] at digit
  change 48 ≤ c.toNat ∧ c.toNat ≤ 57 at digit
  omega

theorem toNat_lt_of_isAlphanum
    {c : Char}
    (alphanum : c.isAlphanum = true) :
    c.toNat < 0x80 := by
  rcases Bool.or_eq_true_iff.mp alphanum with letter | digit
  · exact toNat_lt_of_isAlpha letter
  · exact toNat_lt_of_isDigit digit

theorem toNat_ofNat
    {point : Nat}
    (valid : point.isValidChar) :
    (Char.ofNat point).toNat = point := by
  simp [Char.ofNat, valid, Char.toNat, Char.ofNatAux]

namespace Text

/-- A mark is an ASCII character that is no letter. -/
def isMark (c : Char) : Bool :=
  c.toNat < 0x80 && !c.isAlpha

/-- A code point beyond ASCII, or that of an ASCII letter, is that of a character that is no mark. -/
theorem isMark_ofNat_eq_false
    {point : Nat}
    (valid : point.isValidChar)
    (noMark : 0x80 ≤ point ∨ (Char.ofNat point).isAlpha = true) :
    isMark (Char.ofNat point) = false := by
  rcases noMark with beyond | letter
  · simp [isMark, toNat_ofNat valid, beyond]
  · simp [isMark, letter]

/-- Every entry of the table of lower-case forms lies beyond ASCII and has characters for code points. -/
theorem lowerCaseRanges_points :
    ∀ range ∈ lowerCaseRanges,
      0x80 ≤ range.first ∧
        (range.last < 0xD800 ∨
          0xDFFF < range.first ∧ range.last < 0x110000) := by
  decide +kernel

/-- No entry of the table of lower-case forms leads to a mark: the two that lead to ASCII lead to letters. -/
theorem lowerCaseRanges_forms :
    ∀ range ∈ lowerCaseRanges,
      (0x80 ≤ range.first + range.offset ∨
          range.first = range.last ∧
            (Char.ofNat (range.first + range.offset).toNat).isAlpha = true) ∧
        (range.last + range.offset < 0xD800 ∨
          0xDFFF < range.first + range.offset ∧
            range.last + range.offset < 0x110000) := by
  decide +kernel

/-- No mark shares its capital with another character. -/
theorem sharedCapitalGroups_points :
    ∀ group ∈ sharedCapitalGroups, ∀ point ∈ group,
      point.isValidChar ∧
        (0x80 ≤ point ∨ (Char.ofNat point).isAlpha = true) := by
  decide +kernel

theorem lowerChar_of_ascii
    {c : Char}
    (ascii : c.toNat < 0x80) :
    lowerChar c = c.toLower := by
  simp [lowerChar, ascii]

theorem isMark_lowerPoint?
    {range : CaseRange}
    (member : range ∈ lowerCaseRanges)
    {point lowered : Nat}
    (found : range.lowerPoint? point = some lowered) :
    isMark (Char.ofNat lowered) = false := by
  simp only [CaseRange.lowerPoint?, Option.ite_none_right_eq_some,
    Option.some.injEq] at found
  obtain ⟨⟨afterFirst, beforeLast, _⟩, rfl⟩ := found
  obtain ⟨form, valid⟩ := lowerCaseRanges_forms range member
  apply isMark_ofNat_eq_false
  · simp only [Nat.isValidChar]
    omega
  · rcases form with beyond | ⟨single, letter⟩
    · left
      omega
    · right
      have same : point = range.first := by omega
      rwa [same]

/-- Only a mark itself has that mark for its lower-case form. -/
theorem eq_of_isMark_lowerChar
    {c : Char}
    (mark : isMark (lowerChar c) = true) :
    lowerChar c = c := by
  by_cases ascii : c.toNat < 0x80
  · revert mark
    rw [lowerChar_of_ascii ascii]
    exact ascii_of_forall_point
      (fun c => isMark c.toLower = true → c.toLower = c)
      (by decide) ascii
  · revert mark
    simp only [lowerChar, ascii, if_false]
    cases found : lowerCaseRanges.findSome? (CaseRange.lowerPoint? · c.toNat) with
    | none =>
        simp
    | some lowered =>
        obtain ⟨range, member, here⟩ := List.exists_of_findSome?_eq_some found
        simp [isMark_lowerPoint? member here]

theorem isMark_of_mem_companions
    {lowered companion : Char}
    (member : companion ∈ companions lowered) :
    isMark companion = false := by
  unfold companions at member
  split at member
  · rename_i group found
    obtain ⟨point, inRest, rfl⟩ := List.mem_map.mp member
    obtain ⟨valid, noMark⟩ :=
      sharedCapitalGroups_points group (List.mem_of_find?_eq_some found)
        point (List.mem_of_mem_erase inRest)
    exact isMark_ofNat_eq_false valid noMark
  · simp at member

theorem companions_of_isMark
    {c : Char}
    (mark : isMark c = true) :
    companions c = [] := by
  have notFound :
      sharedCapitalGroups.find? (·.contains c.toNat) = none := by
    refine List.find?_eq_none.mpr ?_
    intro group member contained
    obtain ⟨valid, noMark⟩ :=
      sharedCapitalGroups_points group member c.toNat
        (by simpa using contained)
    have := isMark_ofNat_eq_false valid noMark
    rw [Char.ofNat_toNat, mark] at this
    cases this
  rw [companions, notFound]

theorem lowerChar_of_isMark
    {c : Char}
    (mark : isMark c = true) :
    lowerChar c = c := by
  have ascii : c.toNat < 0x80 := by
    simp_all [isMark]
  rw [lowerChar_of_ascii ascii]
  revert mark
  exact ascii_of_forall_point
    (fun c => isMark c = true → c.toLower = c)
    (by decide) ascii

/-- A mark is the same letter as itself and no other character. -/
theorem sameLetter_iff_of_isMark
    {mark c : Char}
    (isOne : isMark mark = true) :
    sameLetter mark c = true ↔ c = mark := by
  simp only [sameLetter, lowerChar_of_isMark isOne,
    companions_of_isMark isOne, List.contains_nil, Bool.or_false,
    beq_iff_eq]
  constructor
  · intro same
    have unchanged : lowerChar c = c :=
      eq_of_isMark_lowerChar (by rwa [same])
    exact unchanged.symm.trans same
  · rintro rfl
    exact lowerChar_of_isMark isOne

/-- The capitals of a character that are marks are that character itself. -/
theorem eq_of_mem_withCapitals
    {lowered c : Char}
    (member : c ∈ withCapitals lowered)
    (mark : isMark c = true) :
    c = lowered := by
  simp only [withCapitals, List.cons_append, List.mem_cons,
    List.mem_append] at member
  rcases member with same | asciiCapital | capital
  · exact same
  · exfalso
    split at asciiCapital
    · rename_i lower
      obtain rfl := List.mem_singleton.mp asciiCapital
      have ascii : lowered.toNat < 0x80 :=
        toNat_lt_of_isAlpha (by simp [Char.isAlpha, lower])
      revert lower mark
      exact ascii_of_forall_point
        (fun c => c.isLower = true → isMark c.toUpper = true → False)
        (by decide) ascii
    · simp at asciiCapital
  · exfalso
    obtain ⟨point, found, rfl⟩ := List.mem_map.mp capital
    obtain ⟨range, member, here⟩ := List.mem_filterMap.mp found
    obtain ⟨beyond, valid⟩ := lowerCaseRanges_points range member
    simp only [CaseRange.upperPoint?, CaseRange.lowerPoint?,
      Option.ite_none_right_eq_some, Option.some.injEq] at here
    obtain ⟨⟨⟨afterFirst, beforeLast, _⟩, _⟩, rfl⟩ := here
    have notMark :
        isMark (Char.ofNat (lowered.toNat - range.offset).toNat) = false := by
      apply isMark_ofNat_eq_false
      · simp only [Nat.isValidChar]
        omega
      · left
        omega
    simp [notMark] at mark

/-- A mark is only among the letters that are the same as itself. -/
theorem mem_sameLetters_iff_of_isMark
    {mark c : Char}
    (isOne : isMark mark = true) :
    mark ∈ sameLetters c ↔ mark = c := by
  simp only [sameLetters, List.mem_flatMap, List.mem_cons]
  constructor
  · intro found
    rcases found with ⟨lowered, isLowered | isCompanion, member⟩
    · subst isLowered
      have same := eq_of_mem_withCapitals member isOne
      rw [same] at isOne ⊢
      exact eq_of_isMark_lowerChar isOne
    · have same := eq_of_mem_withCapitals member isOne
      rw [same] at isOne
      simp [isMark_of_mem_companions isCompanion] at isOne
  · rintro rfl
    exact
      ⟨lowerChar mark, Or.inl rfl,
        by simp [withCapitals, lowerChar_of_isMark isOne]⟩

/-- A character that is the same letter as a mark is that mark. -/
theorem eq_of_sameLetter_of_isMark
    {expected mark : Char}
    (isOne : isMark mark = true)
    (same : sameLetter expected mark = true) :
    expected = mark := by
  rw [sameLetter, lowerChar_of_isMark isOne, Bool.or_eq_true] at same
  rcases same with lowered | companion
  · have loweredShape : lowerChar expected = mark :=
      (beq_iff_eq.mp lowered).symm
    have unchanged : lowerChar expected = expected :=
      eq_of_isMark_lowerChar (by rwa [loweredShape])
    exact unchanged.symm.trans loweredShape
  · have noMark :=
      isMark_of_mem_companions (List.contains_iff_mem.mp companion)
    simp [isOne] at noMark

theorem companions_of_ascii :
    ∀ point < 0x80,
      (companions (Char.ofNat point)).all (0x80 ≤ ·.toNat) = true := by
  decide +kernel

theorem toNat_toLower_lt
    {c : Char}
    (ascii : c.toNat < 0x80) :
    c.toLower.toNat < 0x80 :=
  ascii_of_forall_point (fun c => c.toLower.toNat < 0x80) (by decide) ascii

/-- A character of ASCII is the same letter as one with a lower-case form in ASCII exactly if it has that form as well. -/
theorem sameLetter_iff_of_lowerChar_ascii
    {expected c : Char}
    (expectedAscii : (lowerChar expected).toNat < 0x80)
    (ascii : c.toNat < 0x80) :
    sameLetter expected c = true ↔ c.toLower = lowerChar expected := by
  rw [sameLetter, lowerChar_of_ascii ascii, Bool.or_eq_true, beq_iff_eq]
  constructor
  · intro same
    rcases same with equal | companion
    · exact equal
    · exfalso
      have allBeyond :=
        ascii_of_forall_point
          (fun lowered =>
            (companions lowered).all (0x80 ≤ ·.toNat) = true)
          companions_of_ascii expectedAscii
      have beyond : 0x80 ≤ c.toLower.toNat :=
        decide_eq_true_eq.mp
          (List.all_eq_true.mp allBeyond _
            (List.contains_iff_mem.mp companion))
      exact absurd beyond (Nat.not_le.mpr (toNat_toLower_lt ascii))
  · exact Or.inl

/-- Two characters of ASCII are the same letter exactly if their lower-case forms in ASCII are equal. -/
theorem sameLetter_iff_of_ascii
    {expected c : Char}
    (expectedAscii : expected.toNat < 0x80)
    (ascii : c.toNat < 0x80) :
    sameLetter expected c = true ↔ c.toLower = expected.toLower := by
  have lowered := lowerChar_of_ascii expectedAscii
  rw [sameLetter_iff_of_lowerChar_ascii _ ascii, lowered]
  rw [lowered]
  exact toNat_toLower_lt expectedAscii

/-! ## Texts in lower case -/

/-- Characters of ASCII in front of a text are lowered on their own. -/
theorem exists_lowerFrom_append
    {front : Text}
    (ascii : ∀ c ∈ front, c.toNat < 0x80)
    (afterCased : Bool)
    (rest : Text) :
    ∃ later,
      lowerFrom afterCased (front ++ rest) =
        front.map Char.toLower ++ lowerFrom later rest := by
  induction front generalizing afterCased with
  | nil =>
      exact ⟨afterCased, rfl⟩
  | cons c others inductionHypothesis =>
      have first : c.toNat < 0x80 :=
        ascii c (by simp)
      have noDottedCapital : c ≠ 'İ' := by
        rintro rfl
        exact absurd first (by decide)
      have noSigma : c ≠ 'Σ' := by
        rintro rfl
        exact absurd first (by decide)
      obtain ⟨later, lowered⟩ :=
        inductionHypothesis (fun other member => ascii other (by simp [member]))
          (if isCaseIgnorable c then afterCased else isCased c)
      refine ⟨later, ?_⟩
      simp only [List.cons_append, lowerFrom, noDottedCapital, noSigma,
        if_false, lowered, lowerChar_of_ascii first, List.map_cons,
        List.nil_append]

/-- Characters of ASCII that are no capitals are kept in front of a text. -/
theorem exists_lowerFrom_append_of_kept
    {front : Text}
    (kept : ∀ c ∈ front, c.toNat < 0x80 ∧ c.toLower = c)
    (afterCased : Bool)
    (rest : Text) :
    ∃ later,
      lowerFrom afterCased (front ++ rest) = front ++ lowerFrom later rest := by
  obtain ⟨later, lowered⟩ :=
    exists_lowerFrom_append (fun c member => (kept c member).1)
      afterCased rest
  have unchanged : front.map Char.toLower = front :=
    (List.map_congr_left fun c member => (kept c member).2).trans
      (List.map_id' front)
  exact ⟨later, by rw [lowered, unchanged]⟩

/-- The lower-case form of a text of ASCII is that of its characters. -/
theorem lower_of_ascii
    {text : Text}
    (ascii : ∀ c ∈ text, c.toNat < 0x80) :
    lower text = text.map Char.toLower := by
  obtain ⟨later, lowered⟩ := exists_lowerFrom_append ascii false []
  rw [List.append_nil] at lowered
  rw [lower, lowered, lowerFrom, List.append_nil]

/-- What stands in a lowered text of ASCII is ASCII and in lower case. -/
theorem kept_of_mem_lower
    {text : Text}
    (ascii : ∀ c ∈ text, c.toNat < 0x80)
    {c : Char}
    (member : c ∈ lower text) :
    c.toNat < 0x80 ∧ c.toLower = c := by
  rw [lower_of_ascii ascii] at member
  obtain ⟨original, inText, rfl⟩ := List.mem_map.mp member
  have originalAscii := ascii original inText
  exact
    ⟨toNat_toLower_lt originalAscii,
      Char.toLower_toLower_eq_toLower original⟩

end Text

end AdFilter
