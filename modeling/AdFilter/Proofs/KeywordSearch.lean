import AdFilter.Proofs.KeywordRuns
import AdFilter.Proofs.RegexpPieces
import AdFilter.Regexp.Parser

namespace AdFilter

/-!
# Keywords by an expression

The keywords of a pattern can be searched for with an expression: a delimiter and at least two keyword characters, after
which there is another delimiter that the next match may begin with.  Every match is a delimited run, so from one place no
two matches of different lengths begin, and the matches one after the other are what the pass over the text finds.
-/

namespace Pattern

variable {text before run after : Text} {start last : Nat}

/-! ## The expression -/

/-- The characters of keywords. -/
def keywordSet : CharSet :=
  .union (.range (97, 122)) (.union (.range (48, 57)) (.single '%'))

/-- The characters that may stand beside a keyword. -/
def delimiterSet : CharSet :=
  .complement
    (.union (.range (97, 122))
      (.union (.range (48, 57)) (.union (.single '%') (.single '*'))))

/-- The expression of a delimiter and keyword characters after it. -/
def keywordExpression : Regexp :=
  .seq (.one delimiterSet)
    ((Regexp.one keywordSet).repeated leastKeywordLength none)

example :
    Regexp.parse? "[^a-z0-9%*][a-z0-9%]{2,}".toList = some keywordExpression := by
  decide +kernel

theorem holds_keywordSet
    (c : Char) :
    keywordSet.holds .exact c = isKeywordChar c :=
  (Bool.or_assoc c.isLower c.isDigit (c = '%')).symm

theorem holds_delimiterSet_iff
    (c : Char) :
    delimiterSet.holds .exact c = true ↔
      isKeywordChar c = false ∧ c ≠ '*' := by
  have members :
      delimiterSet.holds .exact c =
        !(c.isLower || (c.isDigit || (c = '%' || c = '*'))) :=
    rfl
  simp [members, isKeywordChar, and_assoc]

/-! ## Matches -/

/--
A search for keywords can match what a text has between two positions, if the expression leads from one to the other and
a delimiter follows, which the match does not have.
-/
structure IsMatch (text : Text) (start last : Nat) : Prop where
  leads :
    Regexp.Leads .exact text.toArray keywordExpression start last
  followed :
    ∃ next,
      Regexp.Leads .exact text.toArray (.one delimiterSet) last next

theorem isMatch_iff_covers :
    IsMatch text start last ↔
      ∃ c run d next,
        (isKeywordChar c = false ∧ c ≠ '*') ∧
          (2 ≤ run.length ∧ ∀ e ∈ run, isKeywordChar e = true) ∧
          (isKeywordChar d = false ∧ d ≠ '*') ∧
          Covers text start last ([c] ++ run) ∧
          Covers text last next [d] := by
  constructor
  · intro isMatch
    obtain ⟨middle, overDelimiter, overRun⟩ :=
      Regexp.Leads.seq_iff.mp isMatch.leads
    obtain ⟨c, delimits, coversDelimiter⟩ :=
      Regexp.leads_one_iff.mp overDelimiter
    obtain ⟨run, longEnough, areChars, coversRun⟩ :=
      (Regexp.leads_repeated_iff coversDelimiter.inside).mp overRun
    obtain ⟨next, overNext⟩ := isMatch.followed
    obtain ⟨d, delimitsAlso, coversNext⟩ :=
      Regexp.leads_one_iff.mp overNext
    rw [holds_delimiterSet_iff] at delimits delimitsAlso
    simp only [holds_keywordSet] at areChars
    exact
      ⟨c, run, d, next, delimits, ⟨longEnough, areChars⟩, delimitsAlso,
        coversDelimiter.append coversRun, coversNext⟩
  · intro covered
    obtain ⟨c, run, d, next, delimits, ⟨longEnough, areChars⟩, delimitsAlso,
      covers, coversNext⟩ := covered
    obtain ⟨middle, coversDelimiter, coversRun⟩ := covers.split
    rw [← holds_delimiterSet_iff] at delimits delimitsAlso
    simp only [← holds_keywordSet] at areChars
    refine ⟨Regexp.Leads.seq_iff.mpr ⟨middle, ?_, ?_⟩, next, ?_⟩
    · exact Regexp.leads_one_iff.mpr ⟨c, delimits, coversDelimiter⟩
    · exact
        (Regexp.leads_repeated_iff coversDelimiter.inside).mpr
          ⟨run, longEnough, areChars, coversRun⟩
    · exact Regexp.leads_one_iff.mpr ⟨d, delimitsAlso, coversNext⟩

/-- A keyword run is what stands between two delimiters. -/
theorem isKeywordRun_iff_delimited :
    IsKeywordRun text before run after ↔
      ∃ front c d rest,
        before = front ++ [c] ∧ after = d :: rest ∧
          (isKeywordChar c = false ∧ c ≠ '*') ∧
          (2 ≤ run.length ∧ ∀ e ∈ run, isKeywordChar e = true) ∧
          (isKeywordChar d = false ∧ d ≠ '*') ∧
          text = before ++ (run ++ after) := by
  constructor
  · intro isRun
    obtain ⟨d, rest, rfl⟩ := List.exists_cons_of_ne_nil isRun.notAtEnd
    rcases List.eq_nil_or_concat' before with nothing | ⟨front, c, rfl⟩
    · exact absurd nothing isRun.notAtStart
    · have beginsRun := isRun.beginsRun c (by simp)
      have notAfterWildcard := isRun.notAfterWildcard
      have notBeforeWildcard := isRun.notBeforeWildcard
      exact
        ⟨front, c, d, rest, rfl, rfl,
          ⟨beginsRun, by simpa using notAfterWildcard⟩,
          ⟨isRun.longEnough, isRun.areChars⟩,
          ⟨isRun.endsRun d rfl, by simpa using notBeforeWildcard⟩,
          isRun.shape⟩
  · intro delimited
    obtain ⟨front, c, d, rest, rfl, rfl, delimits, ⟨longEnough, areChars⟩,
      delimitsAlso, shape⟩ := delimited
    exact
      { shape := shape
        areChars := areChars
        beginsRun := by simpa using delimits.1
        endsRun := by simpa using delimitsAlso.1
        longEnough := longEnough
        notAtStart := by simp
        notAtEnd := by simp
        notAfterWildcard := by simpa using delimits.2
        notBeforeWildcard := by simpa using delimitsAlso.2 }

/-- What the search can match is a keyword run together with the delimiter before it. -/
theorem isMatch_iff :
    IsMatch text start last ↔
      ∃ before run after,
        IsKeywordRun text before run after ∧
          before.length = start + 1 ∧
          last = before.length + run.length := by
  simp only [isMatch_iff_covers, isKeywordRun_iff_delimited]
  constructor
  · intro covered
    obtain ⟨c, run, d, next, delimits, isRun, delimitsAlso, covers,
      coversNext⟩ := covered
    have length : (text.take start).length = start :=
      List.length_take_of_le covers.start_le
    have shape :
        text =
          (text.take start ++ [c]) ++ (run ++ d :: text.drop next) := by
      have atStart := (List.take_append_drop start text).symm
      rw [covers.shape, coversNext.shape] at atStart
      simpa using atStart
    refine
      ⟨text.take start ++ [c], run, d :: text.drop next,
        ⟨_, c, d, _, rfl, rfl, delimits, isRun, delimitsAlso, shape⟩, ?_, ?_⟩
    · simp [length]
    · have size := covers.size
      simp only [List.length_append, List.length_singleton, length] at size ⊢
      omega
  · intro found
    obtain ⟨_, run, _,
      ⟨front, c, d, rest, rfl, rfl, delimits, isRun, delimitsAlso, shape⟩,
      startsAt, lastAt⟩ := found
    have length : front.length = start := by
      simpa using startsAt
    have atStart : text.drop start = (([c] ++ run) ++ [d]) ++ rest := by
      rw [shape, ← length]
      simp
    have inside : start ≤ text.length := by
      rw [shape, ← length]
      simp
    obtain ⟨next, covers, _⟩ := Covers.of_drop inside atStart
    obtain ⟨middle, coversMatch, coversNext⟩ := covers.split
    have sameLast : last = middle := by
      rw [lastAt, startsAt, coversMatch.size, List.length_append,
        List.length_singleton, Nat.add_assoc]
    rw [sameLast]
    exact
      ⟨c, run, d, next, delimits, isRun, delimitsAlso, coversMatch,
        coversNext⟩

/-- Nothing that the search could match is part of a longer piece that it could match from the same place. -/
theorem IsMatch.unique
    {otherLast : Nat}
    (isMatch : IsMatch text start last)
    (isMatchAlso : IsMatch text start otherLast) :
    otherLast = last := by
  obtain ⟨before, run, after, isRun, length, rfl⟩ := isMatch_iff.mp isMatch
  obtain ⟨otherBefore, other, otherAfter, isRunAlso, otherLength, rfl⟩ :=
    isMatch_iff.mp isMatchAlso
  rcases isRun.eq_or_apart isRunAlso (by omega) with same | apart
  · rw [same.1, same.2.1]
  · omega

/-! ## One match after the other -/

/--
A search from a place on finds the keywords of a list: each match is the first one and the longest there from where the
match before it ended, and its delimiter is left out.
-/
inductive Finds (text : Text) : Nat → List Text → Prop where
  | none
      {place : Nat}
      (noMatch : ∀ start last, IsMatch text start last → start < place) :
      Finds text place []
  | next
      {place start last : Nat}
      {later : List Text}
      (isMatch : IsMatch text start last)
      (inside : place ≤ start)
      (first :
        ∀ otherStart otherLast, IsMatch text otherStart otherLast →
          place ≤ otherStart → start ≤ otherStart)
      (longest :
        ∀ otherLast, IsMatch text start otherLast → otherLast ≤ last)
      (others : Finds text last later) :
      Finds text place ((text.take last).drop (start + 1) :: later)

/-- The runs that begin after a place are what the search finds from that place on. -/
theorem RunsFrom.finds
    {place : Nat}
    {list : List Text}
    (runs : RunsFrom text (place + 1) list) :
    Finds text place list := by
  generalize at_place : place + 1 = nextPlace at runs
  induction runs generalizing place with
  | none noRun =>
      refine .none ?_
      intro start last isMatch
      obtain ⟨before, run, after, isRun, length, _⟩ := isMatch_iff.mp isMatch
      have early := noRun before run after isRun
      omega
  | @next _ before run after later isRun inside first others inductionHypothesis =>
      have length : before.length = (before.length - 1) + 1 := by omega
      have isMatch :
          IsMatch text (before.length - 1) (before.length + run.length) :=
        isMatch_iff.mpr ⟨before, run, after, isRun, length, rfl⟩
      have found :
          (text.take (before.length + run.length)).drop
              ((before.length - 1) + 1) = run := by
        rw [← length, isRun.shape]
        simp [List.take_append, List.take_of_length_le]
      rw [← found]
      refine .next isMatch (by omega) ?_ ?_ (inductionHypothesis rfl)
      · intro otherStart otherLast isMatchAlso insideAlso
        obtain ⟨otherBefore, other, otherAfter, isRunAlso, otherLength, _⟩ :=
          isMatch_iff.mp isMatchAlso
        have notEarlier :=
          first otherBefore other otherAfter isRunAlso (by omega)
        omega
      · intro otherLast isMatchAlso
        exact (isMatch.unique isMatchAlso).le

/-- The pass over a text has the result of the search, since no keyword run begins where the text does. -/
theorem finds_keywordsFrom
    (text : Text) :
    Finds text 0 (keywordsFrom false [] text) := by
  refine RunsFrom.finds ((runsFrom_keywordsFrom text).of_same_runs ?_)
  intro before run after isRun
  have notEmpty := List.length_pos_of_ne_nil isRun.notAtStart
  omega

/-! ## All keywords -/

theorem hasKeywords_iff
    (text : Text) :
    hasKeywords text = true ↔ keywords text ≠ [] := by
  rw [hasKeywords, keywords, decide_eq_true_eq]
  cases keywordsFrom false [] (Text.lower text) with
  | nil =>
      simp
  | cons first others =>
      simp [List.eraseDups_cons]

theorem hasKeywords_iff_isMatch
    (text : Text) :
    hasKeywords text = true ↔
      ∃ start last, IsMatch (Text.lower text) start last := by
  rw [hasKeywords_iff, ne_eq, List.eq_nil_iff_forall_not_mem, not_forall_not]
  simp only [mem_keywords_iff, isMatch_iff]
  constructor
  · intro found
    obtain ⟨run, before, after, isRun⟩ := found
    have notEmpty := List.length_pos_of_ne_nil isRun.notAtStart
    exact
      ⟨before.length - 1, before.length + run.length,
        before, run, after, isRun, by omega, rfl⟩
  · intro found
    obtain ⟨_, _, before, run, after, isRun, _⟩ := found
    exact ⟨run, before, after, isRun⟩

/--
The keywords of a pattern are the longest runs of keyword characters of the lowered text that have at least two of them, are
not at an end of it and not beside a wildcard, each of them once and in the order in which they occur first; a pattern
has a keyword if there is one.  A search for the expression of keywords finds the same.
-/
theorem keywords_eq_iff_listsKeywords
    (text : Text) :
    (∀ list, keywords text = list ↔ ListsKeywords (Text.lower text) list) ∧
      (hasKeywords text = true ↔ keywords text ≠ []) ∧
      (hasKeywords text = true ↔
        ∃ start last, IsMatch (Text.lower text) start last) ∧
      ∃ found,
        Finds (Text.lower text) 0 found ∧ keywords text = found.eraseDups := by
  refine
    ⟨?_, hasKeywords_iff text, hasKeywords_iff_isMatch text,
      _, finds_keywordsFrom (Text.lower text), rfl⟩
  intro list
  constructor
  · rintro rfl
    exact listsKeywords_keywords text
  · exact (listsKeywords_keywords text).unique

/-- One delimiter is enough between two keywords, and a repeated one is listed where it occurs first. -/
example :
    keywords "/xy/ad/xy*cd/E/%20/ef".toList =
      ["xy".toList, "ad".toList, "%20".toList] := by
  decide +kernel

end Pattern

end AdFilter
