import AdFilter.Text.Basic
import AdFilter.Text.CaseTable

namespace AdFilter

/-!
# Letter case

The lower-case form of a text follows Unicode: every character is mapped on its own, with two exceptions.
A capital I with a dot becomes an `i` and a combining dot, and a capital sigma at the end of a word becomes
the final small sigma.

Two characters are the same letter when their lower-case forms are equal or share a capital.
-/

/-- The lower-case form of the code point, if it lies in the range. -/
def CaseRange.lowerPoint? (range : CaseRange) (point : Nat) : Option Nat :=
  if range.first ≤ point ∧ point ≤ range.last ∧ (point - range.first) % range.stride = 0 then
    some (point + range.offset).toNat
  else
    none

/-- The code point of the range that has the given lower-case form. -/
def CaseRange.upperPoint? (range : CaseRange) (lowered : Nat) : Option Nat :=
  let point := (lowered - range.offset).toNat
  if range.lowerPoint? point = some lowered then some point else none

namespace Text

/-- The lower-case form of a single character. -/
def lowerChar (c : Char) : Char :=
  if c.toNat < 0x80 then
    c.toLower
  else
    match lowerCaseRanges.findSome? (CaseRange.lowerPoint? · c.toNat) with
    | some point => Char.ofNat point
    | none => c

/-- Whether a character is a letter with case that `isCaseIgnorable` does not hold for. -/
def isCased (c : Char) : Bool :=
  CharRange.anyHolds casedRanges c

/-- Whether a character is passed over when the neighbours of a letter are looked at. -/
def isCaseIgnorable (c : Char) : Bool :=
  CharRange.anyHolds caseIgnorableRanges c

/-- Whether the first character that is not case-ignorable is cased. -/
def beginsCased (text : Text) : Bool :=
  match text.dropWhile isCaseIgnorable with
  | [] => false
  | c :: _ => isCased c

/--
The lower-case form of a text, where `afterCased` says whether the nearest character before it that is not
case-ignorable is cased.
-/
def lowerFrom (afterCased : Bool) : Text → Text
  | [] => []
  | c :: rest =>
      let lowered :=
        if c = 'İ' then
          ['i', '\u0307']
        else if c = 'Σ' then
          [if afterCased && !beginsCased rest then 'ς' else 'σ']
        else
          [lowerChar c]
      lowered ++ lowerFrom (if isCaseIgnorable c then afterCased else isCased c) rest

/-- The lower-case form of a text. -/
def lower (text : Text) : Text :=
  lowerFrom false text

/-- The other lower-case characters that have the same capital as a lower-case character. -/
def companions (lowered : Char) : List Char :=
  match sharedCapitalGroups.find? (·.contains lowered.toNat) with
  | some group => (group.erase lowered.toNat).map Char.ofNat
  | none => []

/-- Whether two characters are the same letter. -/
def sameLetter (expected c : Char) : Bool :=
  lowerChar c == lowerChar expected || (companions (lowerChar expected)).contains (lowerChar c)

/-- What follows `lead` in any letter case, if the text begins with it. -/
def afterSameLetters? : Text → Text → Option Text
  | [], text => some text
  | _ :: _, [] => none
  | expected :: lead, c :: text =>
      if sameLetter expected c then afterSameLetters? lead text else none

/-- The capitals of a lower-case character, and the character itself. -/
def withCapitals (lowered : Char) : List Char :=
  let point := lowered.toNat
  let capitals := lowerCaseRanges.filterMap (CaseRange.upperPoint? · point)
  let asciiCapitals := if lowered.isLower then [lowered.toUpper] else []
  lowered :: asciiCapitals ++ capitals.map Char.ofNat

/-- All characters that are the same letter as a character. -/
def sameLetters (c : Char) : List Char :=
  (lowerChar c :: companions (lowerChar c)).flatMap withCapitals

/--
The capital form of a character where that form consists of ASCII characters, and the character itself
where it does not.
-/
def asciiCapital (c : Char) : Text :=
  match c with
  | 'ı' => ['I']
  | 'ß' => ['S', 'S']
  | 'ſ' => ['S']
  | 'ﬀ' => ['F', 'F']
  | 'ﬁ' => ['F', 'I']
  | 'ﬂ' => ['F', 'L']
  | 'ﬃ' => ['F', 'F', 'I']
  | 'ﬄ' => ['F', 'F', 'L']
  | 'ﬅ' => ['S', 'T']
  | 'ﬆ' => ['S', 'T']
  | _ => [c.toUpper]

end Text

end AdFilter
