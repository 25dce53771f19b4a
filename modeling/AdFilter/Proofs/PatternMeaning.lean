import AdFilter.Proofs.PatternExpression
import AdFilter.Proofs.RegexpPieces

namespace AdFilter

/-!
# The meaning of patterns

What a pattern finds is said here without expressions.  A location is cut into what stands before the body, what the
body reads and what comes after it; anchors say what may stand before, and the bar at the end what may come after.
Compiled patterns find exactly that, with one reservation: a place before a single final line feed counts as an end.
-/

/-- Two characters are the same to an expression. -/
def CaseRule.Same : CaseRule → Char → Char → Prop
  | .exact, expected, c => c = expected
  | .ignored, expected, c => Text.sameLetter expected c = true

namespace Pattern

/-- What counts as the end of a location. -/
inductive EndRule where
  | textEnd
  | lastLineEnd
  deriving Repr, DecidableEq

/-- Nothing but an end follows. -/
def EndRule.Holds : EndRule → Text → Prop
  | .textEnd, after => after = []
  | .lastLineEnd, after => after = [] ∨ after = ['\n']

/-- A character of a body reads the text that is here up to the text that is left afterwards. -/
inductive CharReads (rule : CaseRule) (ends : EndRule) : Char → Text → Text → Prop where
  | wildcard
      {run : Text}
      (oneLine : '\n' ∉ run)
      (after : Text) :
      CharReads rule ends '*' (run ++ after) after
  | separator
      {c : Char}
      (separates : isSeparator c = true)
      (after : Text) :
      CharReads rule ends '^' (c :: after) after
  | separatorAtEnd
      {after : Text}
      (atEnd : ends.Holds after) :
      CharReads rule ends '^' after after
  | itself
      {expected c : Char}
      (noWildcard : expected ≠ '*')
      (noSeparator : expected ≠ '^')
      (same : rule.Same expected c)
      (after : Text) :
      CharReads rule ends expected (c :: after) after

/-- A body reads the text that is here up to the text that is left afterwards. -/
def BodyReads (rule : CaseRule) (ends : EndRule) : Text → Text → Text → Prop
  | [], here, after => here = after
  | c :: body, here, after =>
      ∃ between,
        CharReads rule ends c here between ∧
          BodyReads rule ends body between after

/-- A character that may stand in the scheme of an address in front of a domain. -/
def isSchemeMark (c : Char) : Bool :=
  Text.isWordChar c || c = '-'

/-- Labels that may stand before an anchored one: none, or some characters of a host with a point after them. -/
def AreLeadingLabels (labels : Text) : Prop :=
  labels = [] ∨
    ∃ names, names ≠ [] ∧ '/' ∉ names ∧ labels = names ++ ['.']

/-- A text leads to the label of a domain: a scheme, a colon, slashes and perhaps labels. -/
def LeadsToLabel (before : Text) : Prop :=
  ∃ scheme slashes labels : Text,
    before = scheme ++ ([':'] ++ (slashes ++ labels)) ∧
      scheme ≠ [] ∧
      (∀ c ∈ scheme, isSchemeMark c = true) ∧
      slashes ≠ [] ∧
      (∀ c ∈ slashes, c = '/') ∧
      AreLeadingLabels labels

/-- What may stand before a body with an anchor. -/
def Anchor.Admits : Anchor → Text → Prop
  | .nowhere, _ => True
  | .addressStart, before => before = []
  | .domainLabel, before => LeadsToLabel before

/-- A location has a part that the body of a shape reads, between what its marks admit. -/
def Shape.FoundIn
    (rule : CaseRule)
    (ends : EndRule)
    (shape : Shape)
    (location : Text) : Prop :=
  ∃ before here after,
    location = before ++ here ∧
      shape.anchor.Admits before ∧
      BodyReads rule ends shape.body here after ∧
      (shape.reachesEnd = true → ends.Holds after)

/-! ## Sets of characters -/

theorem holds_single_iff
    {rule : CaseRule}
    {expected c : Char} :
    (CharSet.single expected).holds rule c = true ↔
      rule.Same expected c := by
  cases rule with
  | exact =>
      simp [CharSet.holds, CaseRule.Same]
  | ignored =>
      rfl

/-- A mark is only the same as itself. -/
theorem same_iff_of_isMark
    {rule : CaseRule}
    {mark c : Char}
    (isOne : Text.isMark mark = true) :
    rule.Same mark c ↔ c = mark := by
  cases rule with
  | exact =>
      rfl
  | ignored =>
      exact Text.sameLetter_iff_of_isMark isOne

/-- A range of ASCII that holds no letters is a range of marks. -/
theorem isMark_of_holds_range
    {first last : Nat}
    (ascii : last < 0x80)
    (checked :
      ∀ point < 0x80,
        CharRange.holds (first, last) (Char.ofNat point) = true →
          Text.isMark (Char.ofNat point) = true)
    {mark : Char}
    (holds : CharRange.holds (first, last) mark = true) :
    Text.isMark mark = true := by
  have markAscii : mark.toNat < 0x80 := by
    simp only [CharRange.holds, Bool.and_eq_true, decide_eq_true_eq] at holds
    omega
  exact ascii_of_forall_point
    (fun c =>
      CharRange.holds (first, last) c = true → Text.isMark c = true)
    checked markAscii holds

/-- Letter case does not matter to a range of marks. -/
theorem holds_range_of_marks
    (rule : CaseRule)
    (c : Char)
    (first last : Nat)
    (ascii : last < 0x80)
    (checked :
      ∀ point < 0x80,
        CharRange.holds (first, last) (Char.ofNat point) = true →
          Text.isMark (Char.ofNat point) = true) :
    (CharSet.range (first, last)).holds rule c =
      CharRange.holds (first, last) c := by
  cases rule with
  | exact =>
      rfl
  | ignored =>
      rw [Bool.eq_iff_iff]
      simp only [CharSet.holds, List.any_eq_true]
      constructor
      · intro found
        obtain ⟨mark, member, holds⟩ := found
        have isOne := isMark_of_holds_range ascii checked holds
        rwa [← (Text.mem_sameLetters_iff_of_isMark isOne).mp member]
      · intro holds
        have isOne := isMark_of_holds_range ascii checked holds
        exact
          ⟨c, (Text.mem_sameLetters_iff_of_isMark isOne).mpr rfl, holds⟩

theorem holds_single_of_isMark
    (rule : CaseRule)
    (c : Char)
    (mark : Char)
    (isOne : Text.isMark mark = true) :
    (CharSet.single mark).holds rule c = (c == mark) := by
  rw [Bool.eq_iff_iff, holds_single_iff, same_iff_of_isMark isOne,
    beq_iff_eq]

theorem holds_union
    (rule : CaseRule)
    (first second : CharSet)
    (c : Char) :
    (CharSet.union first second).holds rule c =
      (first.holds rule c || second.holds rule c) :=
  rfl

/-- Letter case does not matter to the set of separators: all of its members are marks. -/
theorem holds_separatorSet_eq_exact
    (rule : CaseRule)
    (c : Char) :
    separatorSet.holds rule c = separatorSet.holds .exact c := by
  simp only [separatorSet, holds_union,
    holds_range_of_marks _ _ 0x00 0x24 (by decide) (by decide),
    holds_range_of_marks _ _ 0x26 0x2C (by decide) (by decide),
    holds_range_of_marks _ _ 0x3A 0x40 (by decide) (by decide),
    holds_range_of_marks _ _ 0x5B 0x5E (by decide) (by decide),
    holds_range_of_marks _ _ 0x7B 0x7F (by decide) (by decide),
    holds_single_of_isMark _ _ '/' (by decide),
    holds_single_of_isMark _ _ '`' (by decide)]

/-- The set of separators holds the separators, whatever letter case says. -/
theorem holds_separatorSet
    (rule : CaseRule)
    (c : Char) :
    separatorSet.holds rule c = isSeparator c := by
  rw [holds_separatorSet_eq_exact]
  by_cases ascii : c.toNat < 0x80
  · exact ascii_of_forall_point
      (fun c => separatorSet.holds .exact c = isSeparator c)
      (by decide) ascii
  · have slash : c ≠ '/' := by
      rintro rfl
      exact ascii (by decide)
    have backquote : c ≠ '`' := by
      rintro rfl
      exact ascii (by decide)
    have beyond (last : Nat) (isAscii : last < 0x80) : ¬ c.toNat ≤ last := by
      omega
    simp [separatorSet, CharSet.holds, CharRange.holds, isSeparator,
      slash, backquote, ascii, beyond]

/-- All characters but one mark are those that are different from it. -/
theorem holds_complement_of_isMark
    (rule : CaseRule)
    (c : Char)
    (mark : Char)
    (isOne : Text.isMark mark = true) :
    (CharSet.complement (.single mark)).holds rule c = (c != mark) :=
  congrArg not (holds_single_of_isMark rule c mark isOne)

/-- A run of all characters but one mark is a text without that mark. -/
theorem forall_holds_complement_iff
    {rule : CaseRule}
    {mark : Char}
    (isOne : Text.isMark mark = true)
    {run : Text} :
    (∀ c ∈ run, (CharSet.complement (.single mark)).holds rule c = true) ↔
      mark ∉ run := by
  simp only [holds_complement_of_isMark _ _ mark isOne, bne_iff_ne]
  constructor
  · intro all member
    exact all mark member rfl
  · intro absent c member same
    exact absent (same ▸ member)

theorem holds_schemeSet
    (rule : CaseRule)
    (c : Char) :
    schemeSet.holds rule c = isSchemeMark c := by
  rw [schemeSet, CharSet.holds, holds_single_of_isMark _ _ '-' (by decide)]
  simp [CharSet.holds, isSchemeMark, beq_eq_decide]

/-! ## What the parts of an expression read -/

variable {rule : CaseRule} {ends : EndRule} {location : Text} {start last : Nat}

theorem CharReads.exists_piece
    {c : Char}
    {here after : Text}
    (reads : CharReads rule ends c here after) :
    ∃ piece, here = piece ++ after := by
  cases reads with
  | wildcard _ after =>
      exact ⟨_, rfl⟩
  | separator _ after =>
      exact ⟨[_], rfl⟩
  | separatorAtEnd _ =>
      exact ⟨[], rfl⟩
  | itself _ _ _ after =>
      exact ⟨[_], rfl⟩

/-- What a body reads stands in front of what is left. -/
theorem BodyReads.exists_piece
    {body here after : Text}
    (reads : BodyReads rule ends body here after) :
    ∃ piece, here = piece ++ after := by
  induction body generalizing here with
  | nil =>
      exact ⟨[], reads⟩
  | cons c rest inductionHypothesis =>
      obtain ⟨between, readsFirst, readsRest⟩ := reads
      obtain ⟨first, firstShape⟩ := readsFirst.exists_piece
      obtain ⟨second, secondShape⟩ := inductionHypothesis readsRest
      exact ⟨first ++ second, by rw [firstShape, secondShape, List.append_assoc]⟩

theorem charReads_wildcard_iff
    {here after : Text} :
    CharReads rule ends '*' here after ↔
      ∃ run, '\n' ∉ run ∧ here = run ++ after := by
  constructor
  · intro reads
    cases reads with
    | wildcard oneLine after =>
        exact ⟨_, oneLine, rfl⟩
    | itself noWildcard _ _ _ =>
        exact absurd rfl noWildcard
  · intro pieces
    rcases pieces with ⟨run, oneLine, rfl⟩
    exact .wildcard oneLine after

theorem charReads_separator_iff
    {here after : Text} :
    CharReads rule ends '^' here after ↔
      (∃ c, isSeparator c = true ∧ here = c :: after) ∨
        (here = after ∧ ends.Holds after) := by
  constructor
  · intro reads
    cases reads with
    | separator separates after =>
        exact Or.inl ⟨_, separates, rfl⟩
    | separatorAtEnd atEnd =>
        exact Or.inr ⟨rfl, atEnd⟩
    | itself _ noSeparator _ _ =>
        exact absurd rfl noSeparator
  · intro pieces
    rcases pieces with ⟨c, separates, rfl⟩ | ⟨rfl, atEnd⟩
    · exact .separator separates after
    · exact .separatorAtEnd atEnd

theorem charReads_itself_iff
    {expected : Char}
    (noWildcard : expected ≠ '*')
    (noSeparator : expected ≠ '^')
    {here after : Text} :
    CharReads rule ends expected here after ↔
      ∃ c, rule.Same expected c ∧ here = c :: after := by
  constructor
  · intro reads
    cases reads with
    | wildcard _ _ =>
        exact absurd rfl noWildcard
    | separator _ _ =>
        exact absurd rfl noSeparator
    | separatorAtEnd _ =>
        exact absurd rfl noSeparator
    | itself _ _ same after =>
        exact ⟨_, same, rfl⟩
  · intro pieces
    rcases pieces with ⟨c, same, rfl⟩
    exact .itself noWildcard noSeparator same after

/-- The last line ends where nothing but an end follows. -/
theorem isLastLineEnd_iff
    (inside : start ≤ location.length) :
    Positions.isLastLineEnd location.toArray start = true ↔
      EndRule.lastLineEnd.Holds (location.drop start) := by
  simp only [Positions.isLastLineEnd, EndRule.Holds, List.size_toArray,
    List.getElem?_toArray, Bool.or_eq_true, Bool.and_eq_true,
    decide_eq_true_eq, List.drop_eq_nil_iff]
  constructor
  · intro isEnd
    rcases isEnd with atEnd | ⟨beforeLast, lineFeed⟩
    · exact Or.inl (by omega)
    · right
      obtain ⟨isPosition, isLineFeed⟩ :=
        List.getElem?_eq_some_iff.mp lineFeed
      rw [List.drop_eq_getElem_cons isPosition, isLineFeed,
        List.drop_eq_nil_of_le (by omega)]
  · intro ends
    rcases ends with atEnd | lineFeed
    · exact Or.inl (by omega)
    · right
      have length := congrArg List.length lineFeed
      rw [List.length_drop, List.length_singleton] at length
      rw [← List.head?_drop, lineFeed]
      exact ⟨by omega, rfl⟩

theorem leads_wildcardItem_iff
    (inside : start ≤ location.length) :
    Regexp.Leads rule location.toArray (charItem '*').expression start last ↔
      ∃ piece,
        Covers location start last piece ∧
          CharReads rule .lastLineEnd '*'
            (location.drop start) (location.drop last) := by
  have expression :
      (charItem '*').expression = (Regexp.one lineSet).repeated 0 none :=
    rfl
  simp only [expression, Regexp.leads_anyRun_iff inside, lineSet,
    forall_holds_complement_iff (by decide : Text.isMark '\n' = true),
    charReads_wildcard_iff]
  constructor
  · intro leads
    obtain ⟨run, absent, covers⟩ := leads
    exact ⟨run, covers, run, absent, covers.shape⟩
  · intro covered
    obtain ⟨piece, covers, run, absent, shape⟩ := covered
    exact ⟨run, absent, covers.piece_eq shape ▸ covers⟩

theorem leads_separatorItem_iff
    (inside : start ≤ location.length) :
    Regexp.Leads rule location.toArray (charItem '^').expression start last ↔
      ∃ piece,
        Covers location start last piece ∧
          CharReads rule .lastLineEnd '^'
            (location.drop start) (location.drop last) := by
  have expression :
      (charItem '^').expression = .either (.one separatorSet) .lastLineEnd :=
    rfl
  simp only [expression, Regexp.Leads.either_iff, Regexp.leads_one_iff,
    Regexp.Leads.lastLineEnd_iff, holds_separatorSet,
    charReads_separator_iff]
  constructor
  · intro leads
    rcases leads with ⟨c, separates, covers⟩ | ⟨rfl, atEnd⟩
    · exact ⟨[c], covers, Or.inl ⟨c, separates, covers.shape⟩⟩
    · exact
        ⟨[], .nil inside,
          Or.inr ⟨rfl, (isLastLineEnd_iff inside).mp atEnd⟩⟩
  · intro covered
    rcases covered with ⟨piece, covers, ⟨c, separates, shape⟩ | ⟨same, atEnd⟩⟩
    · left
      have single : piece = [c] := covers.piece_eq shape
      exact ⟨c, separates, single ▸ covers⟩
    · right
      have nothing : piece = [] := covers.piece_eq same
      have stays : last = start := by
        simpa [nothing] using covers.size
      rw [stays] at atEnd
      exact ⟨stays, (isLastLineEnd_iff inside).mpr atEnd⟩

/-- The expression of a character leads over what the character reads. -/
theorem leads_charItem_iff
    {c : Char}
    (inside : start ≤ location.length) :
    Regexp.Leads rule location.toArray (charItem c).expression start last ↔
      ∃ piece,
        Covers location start last piece ∧
          CharReads rule .lastLineEnd c
            (location.drop start) (location.drop last) := by
  by_cases isWildcard : c = '*'
  · subst isWildcard
    exact leads_wildcardItem_iff inside
  · by_cases isSeparatorMark : c = '^'
    · subst isSeparatorMark
      exact leads_separatorItem_iff inside
    · have expression :
          (charItem c).expression = .one (.single c) := by
        simp [charItem, isWildcard, isSeparatorMark]
      simp only [expression, Regexp.leads_one_iff, holds_single_iff,
        charReads_itself_iff isWildcard isSeparatorMark]
      constructor
      · intro leads
        obtain ⟨d, same, covers⟩ := leads
        exact ⟨[d], covers, d, same, covers.shape⟩
      · intro covered
        obtain ⟨piece, covers, d, same, shape⟩ := covered
        have single : piece = [d] := covers.piece_eq shape
        exact ⟨d, same, single ▸ covers⟩

/-- The expressions of a body lead over what the body reads. -/
theorem leads_body_iff
    {body : Text}
    (inside : start ≤ location.length) :
    Regexp.Leads rule location.toArray
        (Regexp.sequence ((body.map charItem).map Regexp.Item.expression))
        start last ↔
      ∃ piece,
        Covers location start last piece ∧
          BodyReads rule .lastLineEnd body
            (location.drop start) (location.drop last) := by
  -- On the body: the position between two pieces is where what the first one leaves over begins.
  induction body generalizing start with
  | nil =>
      simp only [List.map_nil, Regexp.sequence, Regexp.Leads.empty_iff,
        BodyReads]
      constructor
      · rintro rfl
        exact ⟨[], .nil inside, rfl⟩
      · intro leads
        obtain ⟨piece, covers, same⟩ := leads
        have nothing : piece = [] := covers.piece_eq same
        simpa [nothing] using covers.size
  | cons c rest inductionHypothesis =>
      simp only [List.map_cons, Regexp.leads_sequence_cons_iff,
        leads_charItem_iff inside, BodyReads]
      constructor
      · intro covered
        obtain ⟨middle, ⟨first, coversFirst, readsFirst⟩, leadsRest⟩ := covered
        obtain ⟨second, coversSecond, readsRest⟩ :=
          (inductionHypothesis coversFirst.inside).mp leadsRest
        exact
          ⟨first ++ second, coversFirst.append coversSecond,
            location.drop middle, readsFirst, readsRest⟩
      · intro leads
        obtain ⟨piece, covers, between, readsFirst, readsRest⟩ := leads
        obtain ⟨first, firstShape⟩ := readsFirst.exists_piece
        obtain ⟨second, secondShape⟩ := readsRest.exists_piece
        have whole : piece = first ++ second := by
          refine covers.piece_eq ?_
          rw [firstShape, secondShape, List.append_assoc]
        rw [whole] at covers
        obtain ⟨middle, coversFirst, coversSecond⟩ := covers.split
        have betweenShape : between = location.drop middle := by
          rw [coversSecond.shape, secondShape]
        rw [betweenShape] at readsFirst readsRest
        exact
          ⟨middle, ⟨first, coversFirst, readsFirst⟩,
            (inductionHypothesis coversFirst.inside).mpr
              ⟨second, coversSecond, readsRest⟩⟩

theorem leads_labels_iff
    (inside : start ≤ location.length) :
    Regexp.Leads rule location.toArray
        (labelsExpression.repeated 0 (some 1)) start last ↔
      ∃ labels,
        AreLeadingLabels labels ∧ Covers location start last labels := by
  simp only [Regexp.leads_atMostOnce_iff, labelsExpression,
    Regexp.Leads.seq_iff, Regexp.leads_someRun_iff, Regexp.leads_one_iff,
    holds_single_of_isMark _ _ '.' (by decide), beq_iff_eq, notSlashSet,
    forall_holds_complement_iff (by decide : Text.isMark '/' = true),
    exists_eq_left]
  constructor
  · intro leads
    rcases leads with ⟨middle, leadsNames, coversPoint⟩ | rfl
    · obtain ⟨names, notEmpty, absent, coversNames⟩ := leadsNames
      exact
        ⟨names ++ ['.'], Or.inr ⟨names, notEmpty, absent, rfl⟩,
          coversNames.append coversPoint⟩
    · exact ⟨[], Or.inl rfl, .nil inside⟩
  · intro covered
    rcases covered with ⟨labels, rfl | ⟨names, notEmpty, absent, rfl⟩, covers⟩
    · right
      simpa using covers.size
    · left
      obtain ⟨middle, coversNames, coversPoint⟩ := covers.split
      exact ⟨middle, ⟨names, notEmpty, absent, coversNames⟩, coversPoint⟩

/-- The expressions of a domain's anchor lead from the start of a text to a label. -/
theorem leads_domainLabel_iff :
    Regexp.Leads rule location.toArray
        (Regexp.sequence (Anchor.domainLabel.items.map Regexp.Item.expression))
        start last ↔
      start = 0 ∧
        ∃ before, LeadsToLabel before ∧ Covers location 0 last before := by
  simp only [Anchor.items, List.map_cons, List.map_nil, Regexp.sequence,
    Regexp.Leads.seq_iff, Regexp.Leads.textStart_iff, Regexp.leads_someRun_iff,
    Regexp.leads_one_iff, holds_schemeSet,
    holds_single_of_isMark _ _ ':' (by decide),
    holds_single_of_isMark _ _ '/' (by decide), beq_iff_eq]
  constructor
  · intro leads
    rcases leads with ⟨_, ⟨rfl, rfl⟩, _, leadsScheme, leads⟩
    obtain ⟨scheme, schemeNotEmpty, schemeMarks, coversScheme⟩ :=
      leadsScheme
    rcases leads with ⟨_, ⟨_, rfl, coversColon⟩, _, leadsSlashes, leadsLabels⟩
    obtain ⟨slashes, slashesNotEmpty, areSlashes, coversSlashes⟩ :=
      leadsSlashes
    obtain ⟨labels, areLabels, coversLabels⟩ :=
      (leads_labels_iff coversSlashes.inside).mp leadsLabels
    refine ⟨rfl, _, ?_, coversScheme.append
      (coversColon.append (coversSlashes.append coversLabels))⟩
    exact
      ⟨scheme, slashes, labels, rfl, schemeNotEmpty, schemeMarks,
        slashesNotEmpty, areSlashes, areLabels⟩
  · intro covered
    rcases covered with ⟨rfl, _, leadsToLabel, covers⟩
    rcases leadsToLabel with
        ⟨scheme, slashes, labels, rfl, schemeNotEmpty, schemeMarks,
          slashesNotEmpty, areSlashes, areLabels⟩
    obtain ⟨_, coversScheme, covers⟩ := covers.split
    obtain ⟨_, coversColon, covers⟩ := covers.split
    obtain ⟨_, coversSlashes, coversLabels⟩ := covers.split
    have leadsLabels :
        Regexp.Leads rule location.toArray
          (labelsExpression.repeated 0 (some 1)) _ last :=
      (leads_labels_iff coversSlashes.inside).mpr
        ⟨labels, areLabels, coversLabels⟩
    exact
      ⟨0, ⟨rfl, rfl⟩, _, ⟨scheme, schemeNotEmpty, schemeMarks, coversScheme⟩,
        _, ⟨':', rfl, coversColon⟩,
        _, ⟨slashes, slashesNotEmpty, areSlashes, coversSlashes⟩,
        leadsLabels⟩

/-- The expressions of an anchor lead over what the anchor admits. -/
theorem leads_anchor_iff
    {anchor : Anchor} :
    (∃ start ≤ location.length,
      Regexp.Leads rule location.toArray
        (Regexp.sequence (anchor.items.map Regexp.Item.expression))
        start last) ↔
      ∃ before,
        anchor.Admits before ∧ Covers location 0 last before := by
  cases anchor with
  | nowhere =>
      simp only [Anchor.items, List.map_nil, Regexp.sequence,
        Regexp.Leads.empty_iff, Anchor.Admits, true_and]
      constructor
      · intro leads
        rcases leads with ⟨_, inside, rfl⟩
        exact ⟨location.take last, .take inside⟩
      · intro covered
        obtain ⟨before, covers⟩ := covered
        exact ⟨last, covers.inside, rfl⟩
  | addressStart =>
      simp only [Anchor.items, List.map_cons, List.map_nil, Regexp.sequence,
        Regexp.Leads.textStart_iff, Anchor.Admits, exists_eq_left]
      constructor
      · intro leads
        rcases leads with ⟨_, inside, rfl, rfl⟩
        exact .nil inside
      · intro covers
        have atStart : last = 0 := by
          simpa using covers.size
        exact ⟨0, Nat.zero_le _, atStart, rfl⟩
  | domainLabel =>
      simp only [leads_domainLabel_iff, Anchor.Admits]
      constructor
      · intro covered
        obtain ⟨_, _, _, found⟩ := covered
        exact found
      · intro found
        exact ⟨0, Nat.zero_le _, rfl, found⟩

theorem leads_end_iff
    {reachesEnd : Bool}
    (inside : start ≤ location.length) :
    Regexp.Leads rule location.toArray
        (Regexp.sequence ((endItems reachesEnd).map Regexp.Item.expression))
        start last ↔
      last = start ∧
        (reachesEnd = true →
          EndRule.lastLineEnd.Holds (location.drop start)) := by
  cases reachesEnd with
  | false =>
      simp [endItems, Regexp.sequence]
  | true =>
      simp [endItems, Regexp.sequence, isLastLineEnd_iff inside]

/-- The expression of a shape occurs where the shape is found. -/
theorem occursIn_expression_iff
    {shape : Shape} :
    shape.expression.occursIn rule location = true ↔
      shape.FoundIn rule .lastLineEnd location := by
  simp only [Regexp.occursIn_iff, Shape.expression, Shape.items,
    List.map_append, Regexp.leads_sequence_append_iff]
  constructor
  · intro occurs
    obtain ⟨start, last, inside, stop, leadsFront, leadsEnd⟩ := occurs
    obtain ⟨middle, leadsAnchor, leadsBody⟩ := leadsFront
    obtain ⟨before, admits, coversBefore⟩ :=
      leads_anchor_iff.mp ⟨start, inside, leadsAnchor⟩
    obtain ⟨piece, coversBody, readsBody⟩ :=
      (leads_body_iff coversBefore.inside).mp leadsBody
    obtain ⟨_, atEnd⟩ := (leads_end_iff coversBody.inside).mp leadsEnd
    exact
      ⟨before, location.drop middle, location.drop stop,
        coversBefore.eq_append, admits, readsBody, atEnd⟩
  · intro found
    rcases found with ⟨before, here, after, rfl, admits, readsBody, atEnd⟩
    obtain ⟨piece, rfl⟩ := readsBody.exists_piece
    have covers := Covers.of_append (before ++ piece) after
    rw [List.append_assoc] at covers
    obtain ⟨middle, coversBefore, coversBody⟩ := covers.split
    have here : (before ++ (piece ++ after)).drop middle = piece ++ after :=
      (List.append_cancel_left coversBefore.eq_append).symm
    have afterwards :
        (before ++ (piece ++ after)).drop (before ++ piece).length = after :=
      (List.append_cancel_left (here.symm.trans coversBody.shape)).symm
    obtain ⟨start, inside, leadsAnchor⟩ :=
      leads_anchor_iff.mpr ⟨before, admits, coversBefore⟩
    refine
      ⟨start, (before ++ piece).length, inside, (before ++ piece).length,
        ⟨middle, leadsAnchor, ?_⟩, ?_⟩
    · refine (leads_body_iff coversBefore.inside).mpr ⟨piece, coversBody, ?_⟩
      rwa [here, afterwards]
    · refine (leads_end_iff coversBody.inside).mpr ⟨rfl, ?_⟩
      rwa [afterwards]

/-! ## Runs without marks -/

/-- Characters that are the same with regard to letter case are equal. -/
theorem eq_of_same_exact
    {run piece : Text}
    (same : List.Forall₂ CaseRule.exact.Same run piece) :
    piece = run := by
  have equal : List.Forall₂ (fun expected c => expected = c) run piece :=
    same.imp fun _ _ equalHere => Eq.symm equalHere
  rw [List.forall₂_eq_eq_eq] at equal
  exact equal.symm

/-- The first part of a body reads up to where the rest of it begins. -/
theorem BodyReads.exists_between
    {front rest here after : Text}
    (reads : BodyReads rule ends (front ++ rest) here after) :
    ∃ between,
      BodyReads rule ends front here between ∧
        BodyReads rule ends rest between after := by
  induction front generalizing here with
  | nil =>
      exact ⟨here, rfl, reads⟩
  | cons c others inductionHypothesis =>
      obtain ⟨next, readsFirst, readsOthers⟩ := reads
      obtain ⟨between, readsFront, readsRest⟩ :=
        inductionHypothesis readsOthers
      exact ⟨between, ⟨next, readsFirst, readsFront⟩, readsRest⟩

/-- A run without marks reads the same characters, one by one. -/
theorem BodyReads.exists_same
    {run here after : Text}
    (noWildcard : '*' ∉ run)
    (noSeparator : '^' ∉ run)
    (reads : BodyReads rule ends run here after) :
    ∃ piece, here = piece ++ after ∧ List.Forall₂ rule.Same run piece := by
  induction run generalizing here with
  | nil =>
      exact ⟨[], reads, .nil⟩
  | cons expected others inductionHypothesis =>
      rw [List.mem_cons, not_or] at noWildcard noSeparator
      obtain ⟨between, readsFirst, readsOthers⟩ := reads
      rw [charReads_itself_iff (Ne.symm noWildcard.1)
        (Ne.symm noSeparator.1)] at readsFirst
      obtain ⟨c, sameFirst, rfl⟩ := readsFirst
      obtain ⟨piece, rfl, sameOthers⟩ :=
        inductionHypothesis noWildcard.2 noSeparator.2 readsOthers
      exact ⟨c :: piece, rfl, .cons sameFirst sameOthers⟩

/-- A body with a run without marks in front reads a piece of the same characters and then what the rest of it reads. -/
theorem BodyReads.append_same
    {run piece rest here after : Text}
    (noWildcard : '*' ∉ run)
    (noSeparator : '^' ∉ run)
    (same : List.Forall₂ rule.Same run piece)
    (reads : BodyReads rule ends rest here after) :
    BodyReads rule ends (run ++ rest) (piece ++ here) after := by
  induction same with
  | nil =>
      exact reads
  | cons sameFirst _ inductionHypothesis =>
      rw [List.mem_cons, not_or] at noWildcard noSeparator
      refine ⟨_, .itself ?_ ?_ sameFirst _, ?_⟩
      · exact Ne.symm noWildcard.1
      · exact Ne.symm noSeparator.1
      · exact inductionHypothesis noWildcard.2 noSeparator.2

/-! ## Runs of wildcards -/

/-- A wildcard before another one adds nothing. -/
theorem bodyReads_wildcard_wildcard_iff
    {body here after : Text} :
    BodyReads rule ends ('*' :: '*' :: body) here after ↔
      BodyReads rule ends ('*' :: body) here after := by
  simp only [BodyReads, charReads_wildcard_iff]
  constructor
  · intro twice
    rcases twice with ⟨_, ⟨first, firstOneLine, rfl⟩, between, readsSecond, reads⟩
    rcases readsSecond with ⟨second, secondOneLine, rfl⟩
    refine ⟨between, ⟨first ++ second, ?_, by simp⟩, reads⟩
    simp [firstOneLine, secondOneLine]
  · intro once
    rcases once with ⟨between, ⟨run, oneLine, rfl⟩, reads⟩
    exact
      ⟨run ++ between, ⟨[], by simp, rfl⟩, between, ⟨run, oneLine, rfl⟩, reads⟩

/-- A body reads the same with short runs of wildcards. -/
theorem bodyReads_collapseWildcards_iff
    {body here after : Text} :
    BodyReads rule ends (collapseWildcards body) here after ↔
      BodyReads rule ends body here after := by
  induction body generalizing here with
  | nil =>
      rfl
  | cons c rest inductionHypothesis =>
      rw [collapseWildcards_cons]
      split
      · rename_i twice
        obtain ⟨others, rfl⟩ := List.head?_eq_some_iff.mp twice.2
        rw [inductionHypothesis, twice.1, bodyReads_wildcard_wildcard_iff]
      · simp only [BodyReads, inductionHypothesis]

/-- A shape is found in the same locations with short runs of wildcards. -/
theorem Shape.collapsed_foundIn_iff
    {shape : Shape} :
    shape.collapsed.FoundIn rule ends location ↔
      shape.FoundIn rule ends location := by
  simp only [FoundIn, collapsed, bodyReads_collapseWildcards_iff]

/-! ## Compiled patterns -/

/-- A compiled pattern finds its shape. -/
theorem foundIn_iff_shape
    {text : Text}
    (notLiteral : isLiteralText text = false)
    (matchCase : Bool)
    (location : Text) :
    (ofText text matchCase).foundIn location = true ↔
      (Shape.ofText text).FoundIn
        (if matchCase then .exact else .ignored)
        .lastLineEnd
        location := by
  rw [ofText_of_not_literal notLiteral, ← Shape.collapsed_foundIn_iff]
  exact occursIn_expression_iff

/--
A pattern that is not looked for directly matches a request exactly if its shape is found in the location, or in the
location in lower case if letter case does not matter.
-/
theorem matchesRequest_iff_foundIn
    {text : Text}
    (notLiteral : isLiteralText text = false)
    (matchCase : Bool)
    (request : Request) :
    (ofText text matchCase).matchesRequest request = true ↔
      (Shape.ofText text).FoundIn
        (if matchCase then .exact else .ignored)
        .lastLineEnd
        (if matchCase then request.location
          else Text.lower request.location) := by
  have matchCaseKept : (ofText text matchCase).matchCase = matchCase := by
    rw [ofText_of_not_literal notLiteral]
  rw [matchesRequest, foundIn_iff_shape notLiteral, comparedLocation,
    matchCaseKept]
  rfl

/-- An anchored pattern with a wildcard and a separator matches a location in capital letters. -/
theorem matchesRequest_anchored_wildcard_separator :
    (ofText "||b*d^|".toList false).matchesRequest
      ⟨"http://a.BCD/".toList, none⟩ = true := by
  refine (matchesRequest_iff_foundIn (by decide) false _).mpr ?_
  have sameB : CaseRule.ignored.Same 'b' 'b' := by
    change Text.sameLetter 'b' 'b' = true
    decide +kernel
  have sameD : CaseRule.ignored.Same 'd' 'd' := by
    change Text.sameLetter 'd' 'd' = true
    decide +kernel
  have leads :
      LeadsToLabel ['h', 't', 't', 'p', ':', '/', '/', 'a', '.'] :=
    ⟨['h', 't', 't', 'p'], ['/', '/'], ['a', '.'], rfl, by simp,
      by simp [isSchemeMark, Text.isWordChar], by simp, by simp,
      Or.inr ⟨['a'], by simp, by simp, rfl⟩⟩
  have oneLine : '\n' ∉ ['c'] := by
    simp
  have reads :
      BodyReads .ignored .lastLineEnd
        ['b', '*', 'd', '^'] ['b', 'c', 'd', '/'] [] :=
    ⟨_, .itself (by decide) (by decide) sameB _, _, .wildcard oneLine _,
      _, .itself (by decide) (by decide) sameD _,
      _, .separator (by decide) _, rfl⟩
  exact ⟨_, _, [], by decide +kernel, leads, reads, nofun⟩

/--
Were only the end of a location an end to a separator, the shape of this pattern would not be found where
the pattern matches: the place before a final line feed is an end as well.
-/
theorem matchesRequest_before_final_lineFeed :
    isLiteralText "|a^\n".toList = false ∧
      (ofText "|a^\n".toList true).matchesRequest
          ⟨"a\n".toList, none⟩ = true ∧
      ¬ (Shape.ofText "|a^\n".toList).FoundIn
          .exact .textEnd "a\n".toList := by
  refine ⟨by decide, by decide +kernel, ?_⟩
  intro found
  rcases found with ⟨_, here, after, location, rfl, reads, _⟩
  have hereShape : ['a', '\n'] = here :=
    location
  subst hereShape
  have readsBody :
      BodyReads .exact .textEnd ['a', '^', '\n'] ['a', '\n'] after :=
    reads
  obtain ⟨first, readsLetter, second, readsSeparator, third, readsLineFeed, _⟩ :=
    readsBody
  obtain ⟨_, _, letterShape⟩ :=
    (charReads_itself_iff (by decide) (by decide)).mp readsLetter
  obtain ⟨_, _, lineFeedShape⟩ :=
    (charReads_itself_iff (by decide) (by decide)).mp readsLineFeed
  have firstShape : first = ['\n'] :=
    (List.cons.inj letterShape).2.symm
  rcases charReads_separator_iff.mp readsSeparator with
      ⟨_, _, separatorShape⟩ | ⟨same, atEnd⟩
  · simp [firstShape, lineFeedShape] at separatorShape
  · have nothing : second = [] :=
      atEnd
    simp [nothing] at lineFeedShape

end Pattern

end AdFilter
