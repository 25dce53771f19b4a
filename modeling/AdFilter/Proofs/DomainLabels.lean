import AdFilter.Proofs.DomainSuffixes
import AdFilter.Url.Host

namespace AdFilter

/-!
# Parties by labels

The labels of a domain are what stands between its points, also where nothing does.  A name covers a domain exactly if its
labels are the last ones of the domain.  A request therefore is of the party of a page exactly if the labels of one of
their two domains are the last labels of the other one: neither common characters without a point in front of them nor a
common parent are enough.
-/

namespace Domain

variable {name domain front first second : Text} {parent : List Text}

/-- The labels of a domain. -/
def labels (domain : Text) : List Text :=
  List.splitOn '.' domain

theorem intercalate_labels
    (domain : Text) :
    ['.'].intercalate (labels domain) = domain :=
  List.intercalate_splitOn '.'

/-- A name covers a domain exactly if the labels of the name are the last labels of the domain. -/
theorem covers_iff_labels :
    Covers name domain ↔ labels name <:+ labels domain := by
  constructor
  · intro covers
    cases covers with
    | inl same =>
        rw [same]
    | inr below =>
        obtain ⟨before, rfl⟩ := below
        exact
          ⟨labels before,
            (List.splitOn_append_cons_self before name).symm⟩
  · rintro ⟨before, shape⟩
    have joined := congrArg ['.'].intercalate shape
    rw [intercalate_labels domain] at joined
    by_cases isEmpty : before = []
    · left
      rw [← joined, isEmpty, List.nil_append, intercalate_labels]
    · right
      have someLabel : labels name ≠ [] :=
        List.splitOn_ne_nil '.' name
      rw [Text.intercalate_append isEmpty someLabel,
        intercalate_labels] at joined
      exact ⟨['.'].intercalate before, joined⟩

/-- A name with an empty last label covers what ends in a point. -/
example :
    labels "a.b.".toList = ["a".toList, "b".toList, []] ∧
      Covers [] "a.b.".toList := by
  decide

/-! ## Domains in line -/

/-- Two domains are in line: one of them covers the other. -/
def InLine (first second : Text) : Prop :=
  Covers first second ∨ Covers second first

theorem InLine.symm
    (inLine : InLine first second) :
    InLine second first :=
  Or.symm inLine

/-- What a text without a point at its end stands in front of is not in line with the whole. -/
theorem not_inLine_append
    (notEmpty : front ≠ [])
    (noPoint : ¬ ['.'] <:+ front) :
    ¬ InLine name (front ++ name) := by
  have longer : name.length < (front ++ name).length := by
    simpa using List.length_pos_iff.mpr notEmpty
  rintro (covers | isCovered)
  · cases covers with
    | inl same =>
        rw [same] at longer
        exact absurd longer (Nat.lt_irrefl _)
    | inr below =>
        obtain ⟨before, shape⟩ := below
        have cut : (before ++ ['.']) ++ name = front ++ name := by
          simpa using shape
        exact noPoint ⟨before, List.append_cancel_right cut⟩
  · exact absurd isCovered.suffix.length_le (Nat.not_le.mpr longer)

/-- Two domains with different first labels and the same ones after them are not in line. -/
theorem not_inLine_of_siblings
    (different : first ≠ second)
    (firstLabels : labels name = first :: parent)
    (secondLabels : labels domain = second :: parent) :
    ¬ InLine name domain := by
  rw [InLine, covers_iff_labels, covers_iff_labels, firstLabels,
    secondLabels]
  rintro (ends | ends)
  · have same := ends.eq_of_length rfl
    exact different (List.head_eq_of_cons_eq same)
  · have same := ends.eq_of_length rfl
    exact different (List.head_eq_of_cons_eq same).symm

end Domain

namespace Url

open Domain

variable {url documentDomain : Text}

theorem isSubdomain_iff
    {domain parent : Text} :
    isSubdomain domain parent = true ↔ ('.' :: parent) <:+ domain :=
  List.isSuffixOf_iff_suffix

/-- A request is of the party of a page exactly if it has a host that is in line with the domain of the page. -/
theorem isThirdParty_eq_false_iff_inLine :
    isThirdParty url documentDomain = false ↔
      host url ≠ [] ∧ InLine (host url) (Text.lower documentDomain) := by
  unfold isThirdParty
  dsimp only
  split
  · rename_i noHost
    simp [noHost]
  · rename_i hasHost
    split
    · rename_i same
      exact
        iff_of_true rfl ⟨hasHost, Or.inl (Or.inl same.symm)⟩
    · rename_i different
      rw [InLine, Domain.Covers, Domain.Covers, or_iff_right (Ne.symm different),
        or_iff_right different, ← isSubdomain_iff, ← isSubdomain_iff]
      simp [hasHost, ← Bool.not_eq_true, or_iff_not_imp_left]

theorem isThirdParty_of_not_inLine
    (apart : ¬ InLine (host url) (Text.lower documentDomain)) :
    isThirdParty url documentDomain = true := by
  by_contra ownParty
  rw [Bool.not_eq_true, isThirdParty_eq_false_iff_inLine] at ownParty
  exact apart ownParty.2

/--
A request is of the party of a page exactly if it has a host and the labels of one of the two domains are the last labels of
the other one.  So it is of another party if one domain is the end of the other one without a point in front of it, or if
the two have different labels in front of the same parent.
-/
theorem isThirdParty_eq_false_iff_labels
    (url documentDomain : Text) :
    (isThirdParty url documentDomain = false ↔
        host url ≠ [] ∧
          (labels (host url) <:+ labels (Text.lower documentDomain) ∨
            labels (Text.lower documentDomain) <:+ labels (host url))) ∧
      (∀ front, front ≠ [] → ¬ ['.'] <:+ front →
        (host url = front ++ Text.lower documentDomain ∨
          Text.lower documentDomain = front ++ host url) →
        isThirdParty url documentDomain = true) ∧
      (∀ first second parent, first ≠ second →
        labels (host url) = first :: parent →
        labels (Text.lower documentDomain) = second :: parent →
        isThirdParty url documentDomain = true) := by
  refine ⟨?_, ?_, ?_⟩
  · rw [isThirdParty_eq_false_iff_inLine, InLine, covers_iff_labels,
      covers_iff_labels]
  · intro front notEmpty noPoint oneEndsTheOther
    apply isThirdParty_of_not_inLine
    intro inLine
    cases oneEndsTheOther with
    | inl hostLonger =>
        rw [hostLonger] at inLine
        exact not_inLine_append notEmpty noPoint inLine.symm
    | inr pageLonger =>
        rw [pageLonger] at inLine
        exact not_inLine_append notEmpty noPoint inLine
  · intro first second parent different hostLabels pageLabels
    apply isThirdParty_of_not_inLine
    exact not_inLine_of_siblings different hostLabels pageLabels

/-- A longer word, and another label in front of the same parent, make another party; a label more does not. -/
theorem isThirdParty_of_words_and_siblings :
    isThirdParty "http://a.b.c".toList "B.C".toList = false ∧
      isThirdParty "http://User@xb.c:80/".toList "B.C".toList = true ∧
      isThirdParty "http://a.c".toList "B.C".toList = true := by
  have longHost : host "http://a.b.c".toList = "a.b.c".toList := by
    decide +kernel
  have wordHost :
      host "http://User@xb.c:80/".toList =
        "x".toList ++ Text.lower "B.C".toList := by
    decide +kernel
  have siblingHost :
      labels (host "http://a.c".toList) = ["a".toList, "c".toList] := by
    decide +kernel
  refine ⟨?_, ?_, ?_⟩
  · apply (isThirdParty_eq_false_iff_labels _ _).1.mpr
    rw [longHost]
    exact ⟨nofun, Or.inr (by decide +kernel)⟩
  · exact
      (isThirdParty_eq_false_iff_labels _ _).2.1 "x".toList nofun
        (by decide) (Or.inl wordHost)
  · exact
      (isThirdParty_eq_false_iff_labels _ _).2.2 "a".toList "b".toList
        ["c".toList] (by decide) siblingHost (by decide +kernel)

end Url

end AdFilter
