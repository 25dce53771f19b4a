import AdFilter.Proofs.ContentContainment
import AdFilter.Proofs.FirstOccurrence
import AdFilter.Proofs.PatternMeaning

namespace AdFilter

/-!
# What rules on contents do

What a rule on contents does depends on its mark, on the length of its body and on the entries of its list of domains.  An
entry without a name makes the rule too broad.  An entry with a real domain keeps it from being so.  Looking for points
in the whole list, as is done, may run from one entry into the next, but only in lists that have an entry without a name.
-/

namespace ContentRule

variable {domains body tail entry : Text} {entries : List Text} {mark : ContentMark}
variable {start middle after last : Nat}

/-- An entry of a list of domains is nothing or a tilde alone; a line feed at the end of the list does not count. -/
def HasNamelessEntry (entries : List Text) : Prop :=
  ∃ entry,
    (entry = [] ∨ entry = ['~']) ∧
      (entry ∈ entries ∨ entries.getLast? = some (entry ++ ['\n']))

/-- An entry begins with no tilde and has points after its first character, the first of which is not its last character. -/
def HasInnerPoint (entry : Text) : Prop :=
  ∃ first label next rest,
    entry = first :: (label ++ '.' :: next :: rest) ∧
      first ≠ '~' ∧ '.' ∉ label

/-- An entry of a list of domains is the local host or has a point inside. -/
def HasRealDomain (entries : List Text) : Prop :=
  ∃ entry ∈ entries, entry = "localhost".toList ∨ HasInnerPoint entry

/-! ## Entries without a name -/

theorem hasBlankEntry_iff :
    hasBlankEntry entries = true ↔ HasNamelessEntry entries := by
  unfold HasNamelessEntry
  induction entries using hasBlankEntry.induct with
  | case1 =>
      simp [hasBlankEntry]
  | case2 last =>
      simp only [hasBlankEntry, Bool.or_eq_true, isBlankEntry_iff,
        decide_eq_true_eq, List.mem_singleton, List.getLast?_singleton,
        Option.some.injEq, or_and_right, exists_or, exists_eq_left]
      simp [eq_comm, or_assoc, or_left_comm]
  | case3 first others notLast inductionHypothesis =>
      have sameLast : (first :: others).getLast? = others.getLast? :=
        List.getLast?_cons_of_ne_nil notLast
      rw [hasBlankEntry, Bool.or_eq_true, inductionHypothesis,
        isBlankEntry_iff, sameLast]
      · simp only [List.mem_cons, or_assoc, and_or_left, exists_or,
          exists_eq_right]
      · exact notLast

/-! ## Real domains -/

theorem beginsWithDottedName_iff :
    beginsWithDottedName tail = true ↔
      ∃ first label next rest,
        tail = first :: (label ++ '.' :: next :: rest) ∧
          first ≠ '~' ∧ (∀ c ∈ label, c ≠ ',' ∧ c ≠ '.') ∧ next ≠ ',' := by
  constructor
  · intro begins
    cases tail with
    | nil =>
        cases begins
    | cons first rest =>
        rw [beginsWithDottedName, Bool.and_eq_true,
          decide_eq_true_eq] at begins
        obtain ⟨notNegated, point⟩ := begins
        split at point
        · rename_i next after shape
          refine
            ⟨first, rest.takeWhile fun c => c ≠ ',' && c ≠ '.', next, after,
              ?_, notNegated, ?_, by simpa using point⟩
          · rw [← shape, List.takeWhile_append_dropWhile]
          · intro c member
            simpa using List.mem_takeWhile_imp member
        · cases point
  · rintro ⟨first, label, next, rest, rfl, notNegated, inLabel, inEntry⟩
    rw [beginsWithDottedName,
      List.dropWhile_append_of_pos (by simpa using inLabel)]
    simp [notNegated, inEntry]

/-- Where the first entry has a name, points are looked for inside it only. -/
theorem beginsWithDottedName_iff_takeWhile
    (named : tail.takeWhile (· ≠ ',') ≠ []) :
    beginsWithDottedName tail = true ↔
      HasInnerPoint (tail.takeWhile (· ≠ ',')) := by
  rw [beginsWithDottedName_iff]
  constructor
  · rintro ⟨first, label, next, rest, rfl, notNegated, inLabel, inEntry⟩
    refine ⟨first, label, next, rest.takeWhile (· ≠ ','), ?_, notNegated, ?_⟩
    · have firstInEntry : first ≠ ',' := by
        rintro rfl
        exact named rfl
      rw [List.takeWhile_cons_of_pos (by simpa using firstInEntry),
        List.takeWhile_append_of_pos
          (by simpa using fun c member => (inLabel c member).1),
        List.takeWhile_cons_of_pos (by decide),
        List.takeWhile_cons_of_pos (by simpa using inEntry)]
    · exact fun member => (inLabel '.' member).2 rfl
  · rintro ⟨first, label, next, rest, shape, notNegated, noPoint⟩
    have inEntry (c : Char) (member : c ∈ tail.takeWhile (· ≠ ',')) :
        c ≠ ',' := by
      simpa using List.mem_takeWhile_imp member
    rw [shape] at inEntry
    refine
      ⟨first, label, next, rest ++ tail.dropWhile (· ≠ ','), ?_, notNegated,
        ?_, inEntry next (by simp)⟩
    · conv_lhs => rw [← List.takeWhile_append_dropWhile (p := (· ≠ ',')) (l := tail), shape]
      simp
    · intro c member
      refine ⟨inEntry c (by simp [member]), ?_⟩
      rintro rfl
      exact noPoint member

theorem takeWhile_ne_nil_of_named
    (named : ¬ HasNamelessEntry (List.splitOn ',' domains))
    (isTail : tail ∈ domains :: Text.tailsAfter ',' domains) :
    tail.takeWhile (· ≠ ',') ≠ [] := by
  intro isEmpty
  refine named ⟨[], Or.inl rfl, Or.inl ?_⟩
  rw [Text.splitOn_eq_map_tails, ← isEmpty]
  exact List.mem_map_of_mem isTail

/-- Where all entries have names, a real domain is found in the list exactly if it is an entry of it. -/
theorem namesRealDomain_iff
    (named : domains ≠ [] → ¬ HasNamelessEntry (List.splitOn ',' domains)) :
    namesRealDomain domains = true ↔
      HasRealDomain (List.splitOn ',' domains) := by
  by_cases isEmpty : domains = []
  · subst isEmpty
    simp [namesRealDomain_nil, HasRealDomain, HasInnerPoint]
  have inEntry
      {tail : Text}
      (isTail : tail ∈ domains :: Text.tailsAfter ',' domains) :
      beginsWithDottedName tail = true ↔
        HasInnerPoint (tail.takeWhile (· ≠ ',')) :=
    beginsWithDottedName_iff_takeWhile
      (takeWhile_ne_nil_of_named (named isEmpty) isTail)
  rw [namesRealDomain, Bool.or_eq_true, List.any_eq_true, List.elem_iff]
  unfold HasRealDomain
  constructor
  · rintro (⟨tail, isTail, begins⟩ | isListed)
    · refine ⟨tail.takeWhile (· ≠ ','), ?_, Or.inr ((inEntry isTail).mp begins)⟩
      rw [Text.splitOn_eq_map_tails]
      exact List.mem_map_of_mem isTail
    · exact ⟨_, isListed, Or.inl rfl⟩
  · rintro ⟨entry, isListed, rfl | hasPoint⟩
    · exact Or.inr isListed
    · rw [Text.splitOn_eq_map_tails] at isListed
      obtain ⟨tail, isTail, rfl⟩ := List.mem_map.mp isListed
      exact Or.inl ⟨tail, isTail, (inEntry isTail).mpr hasPoint⟩

/-! ## Searches in the whole list -/

/-- The expression for an entry without a name, between the ends of the list or commas. -/
def namelessEntry : Regexp :=
  Regexp.sequence
    [.either .textStart (.one (.single ',')),
      (Regexp.one (.single '~')).repeated 0 (some 1),
      .either (.one (.single ',')) .lastLineEnd]

example : Regexp.parse? "(^|,)~?(,|$)".toList = some namelessEntry := rfl

/-- The expression for a point inside an entry, from the comma before the entry on. -/
def innerPoint : Regexp :=
  Regexp.sequence
    [.one (.single ','),
      .one (.complement (.single '~')),
      (Regexp.one
        (.complement (.union (.single ',') (.single '.')))).repeated 0 none,
      .one (.single '.'),
      .one (.complement (.single ','))]

example : Regexp.parse? ",[^~][^,.]*\\.[^,]".toList = some innerPoint := rfl

/-- Whether a point inside an entry or the local host is found in a list of domains. -/
def restrictedBySearch (domains : Text) : Bool :=
  innerPoint.occursIn .exact (',' :: domains) ||
    Text.contains ",localhost,".toList (',' :: (domains ++ [',']))

/-- What becomes of a rule that asks for an action, as searches in its whole list of domains decide it. -/
def actionBySearch
    (asked : ContentAction)
    (domains body : Text) :
    ContentAction :=
  if domains ≠ [] ∧ namelessEntry.occursIn .exact domains then
    .tooBroad
  else if asked = .emulateHiding ∨ asked = .runSnippet then
    if restrictedBySearch domains then asked else .tooBroad
  else if ¬ restrictedBySearch domains ∧ body.length < leastBodyLength then
    .tooBroad
  else
    asked

theorem hasNamelessEntry_splitOn_iff :
    HasNamelessEntry (List.splitOn ',' domains) ↔
      ∃ entry rest,
        (entry = [] ∨ entry = ['~']) ∧
          (',' :: (entry ++ rest)) <:+ (',' :: domains) ∧
          ((∃ others, rest = ',' :: others) ∨ rest = [] ∨ rest = ['\n']) := by
  constructor
  · intro listed
    rcases listed with ⟨entry, noName, isListed | isLast⟩
    · obtain ⟨_, rest, isSuffix, ending⟩ := Text.mem_splitOn_iff.mp isListed
      refine ⟨entry, rest, noName, isSuffix, ?_⟩
      rcases ending with atEnd | atComma
      · exact Or.inr (Or.inl atEnd)
      · exact Or.inl atComma
    · obtain ⟨_, isSuffix⟩ := Text.getLast?_splitOn_iff.mp isLast
      exact ⟨entry, ['\n'], noName, isSuffix, Or.inr (Or.inr rfl)⟩
  · intro listed
    obtain ⟨entry, rest, noName, isSuffix, ending⟩ := listed
    have noComma : ',' ∉ entry := by
      rcases noName with rfl | rfl <;> decide
    refine ⟨entry, noName, ?_⟩
    rcases ending with atComma | rfl | rfl
    · exact
        Or.inl
          (Text.mem_splitOn_iff.mpr ⟨noComma, rest, isSuffix, Or.inr atComma⟩)
    · exact
        Or.inl (Text.mem_splitOn_iff.mpr ⟨noComma, [], isSuffix, Or.inl rfl⟩)
    · refine Or.inr (Text.getLast?_splitOn_iff.mpr ⟨?_, isSuffix⟩)
      simpa using noComma

/-- The rests of a marked text that begin with the mark are reached by nothing from its start, or over a mark. -/
theorem marked_suffix_iff
    {mark : Char} :
    (mark :: tail) <:+ (mark :: domains) ↔
      ∃ start middle,
        start ≤ domains.length ∧
          (middle = start ∧ start = 0 ∨
            Covers domains start middle [mark]) ∧
          domains.drop middle = tail := by
  rw [List.suffix_cons_iff, ← List.singleton_append,
    Covers.append_suffix_iff, List.singleton_append, List.cons_eq_cons]
  constructor
  · intro marked
    rcases marked with ⟨_, rfl⟩ | ⟨start, middle, covers, shape⟩
    · exact ⟨0, 0, Nat.zero_le _, Or.inl ⟨rfl, rfl⟩, rfl⟩
    · exact ⟨start, middle, covers.start_le, Or.inr covers, shape⟩
  · intro reached
    rcases reached with ⟨start, middle, inside, ⟨rfl, rfl⟩ | covers, shape⟩
    · exact Or.inl ⟨rfl, shape.symm⟩
    · exact Or.inr ⟨start, middle, covers, shape⟩

theorem inside_of_afterMark
    {mark : Char}
    (inside : start ≤ domains.length)
    (afterMark :
      middle = start ∧ start = 0 ∨ Covers domains start middle [mark]) :
    middle ≤ domains.length := by
  rcases afterMark with ⟨rfl, _⟩ | covers
  · exact inside
  · exact covers.inside

theorem overNameless_iff
    (inside : middle ≤ domains.length) :
    (Covers domains middle after ['~'] ∨ after = middle) ↔
      ∃ entry,
        (entry = [] ∨ entry = ['~']) ∧ Covers domains middle after entry := by
  constructor
  · intro passed
    rcases passed with covers | rfl
    · exact ⟨['~'], Or.inr rfl, covers⟩
    · exact ⟨[], Or.inl rfl, .nil inside⟩
  · intro passed
    obtain ⟨entry, noName, covers⟩ := passed
    rcases noName with rfl | rfl
    · exact Or.inr covers.size
    · exact Or.inl covers

theorem entryEnds_iff
    (inside : after ≤ domains.length) :
    (∃ stop,
        Covers domains after stop [','] ∨
          stop = after ∧
            Positions.isLastLineEnd domains.toArray after = true) ↔
      (∃ others, domains.drop after = ',' :: others) ∨
        domains.drop after = [] ∨ domains.drop after = ['\n'] := by
  rw [exists_or, exists_eq_left, Pattern.isLastLineEnd_iff inside]
  refine or_congr ?_ Iff.rfl
  constructor
  · intro atComma
    obtain ⟨stop, covers⟩ := atComma
    exact ⟨_, covers.shape⟩
  · intro atComma
    obtain ⟨others, shape⟩ := atComma
    rw [← List.singleton_append] at shape
    obtain ⟨stop, covers, _⟩ := Covers.of_drop inside shape
    exact ⟨stop, covers⟩

/-- An entry without a name is found by searching the list for its expression. -/
theorem occursIn_namelessEntry_iff :
    namelessEntry.occursIn .exact domains = true ↔
      HasNamelessEntry (List.splitOn ',' domains) := by
  simp only [Regexp.occursIn_iff, hasNamelessEntry_splitOn_iff,
    marked_suffix_iff, namelessEntry, Regexp.leads_sequence_cons_iff,
    Regexp.Leads.either_iff, Regexp.Leads.textStart_iff,
    Regexp.Leads.lastLineEnd_iff, Regexp.leads_atMostOnce_iff,
    Regexp.leads_single_iff]
  constructor
  · intro found
    obtain ⟨start, last, inside, middle, afterMark, after, passed, stop,
      ending, _⟩ := found
    have middleInside := inside_of_afterMark inside afterMark
    obtain ⟨entry, noName, covers⟩ := (overNameless_iff middleInside).mp passed
    exact
      ⟨entry, domains.drop after, noName,
        ⟨start, middle, inside, afterMark, covers.shape⟩,
        (entryEnds_iff covers.inside).mp ⟨stop, ending⟩⟩
  · intro listed
    obtain ⟨entry, rest, noName, ⟨start, middle, inside, afterMark, shape⟩,
      ending⟩ := listed
    have middleInside := inside_of_afterMark inside afterMark
    obtain ⟨after, covers, rfl⟩ := Covers.of_drop middleInside shape
    obtain ⟨stop, stops⟩ := (entryEnds_iff covers.inside).mpr ending
    have passed := (overNameless_iff middleInside).mpr ⟨entry, noName, covers⟩
    exact
      ⟨start, stop, inside, middle, afterMark, after, passed, stop, stops,
        .empty _⟩

/-- A point inside an entry is led over together with what is between it and the comma. -/
theorem leads_innerPoint_iff
    {text : Text} :
    Regexp.Leads .exact text.toArray innerPoint start last ↔
      ∃ first label next,
        first ≠ '~' ∧ (∀ c ∈ label, c ≠ ',' ∧ c ≠ '.') ∧ next ≠ ',' ∧
          Covers text start last
            ([','] ++ ([first] ++ (label ++ (['.'] ++ [next])))) := by
  simp only [innerPoint, Regexp.leads_sequence_cons_iff,
    Regexp.leads_single_iff]
  simp only [Regexp.leads_one_iff, CharSet.holds, Bool.not_eq_true',
    beq_eq_false_iff_ne]
  constructor
  · rintro ⟨_, coversComma, _, ⟨first, notNegated, coversFirst⟩, _, overLabel,
      _, coversPoint, _, ⟨next, inEntry, coversNext⟩, nothingLeft⟩
    obtain ⟨label, inLabel, coversLabel⟩ :=
      (Regexp.leads_anyRun_iff coversFirst.inside).mp overLabel
    cases nothingLeft
    exact
      ⟨first, label, next, notNegated, by simpa [CharSet.holds] using inLabel,
        inEntry,
        coversComma.append
          (coversFirst.append
            (coversLabel.append (coversPoint.append coversNext)))⟩
  · rintro ⟨first, label, next, notNegated, inLabel, inEntry, covers⟩
    obtain ⟨_, coversComma, afterComma⟩ := covers.split
    obtain ⟨_, coversFirst, afterFirst⟩ := afterComma.split
    obtain ⟨_, coversLabel, afterLabel⟩ := afterFirst.split
    obtain ⟨_, coversPoint, coversNext⟩ := afterLabel.split
    refine
      ⟨_, coversComma, _, ⟨first, notNegated, coversFirst⟩, _, ?_,
        _, coversPoint, _, ⟨next, inEntry, coversNext⟩, .empty _⟩
    exact
      (Regexp.leads_anyRun_iff coversFirst.inside).mpr
        ⟨label, by simpa [CharSet.holds] using inLabel, coversLabel⟩

/-- A point inside an entry is found by searching the marked list for its expression. -/
theorem occursIn_innerPoint_iff :
    innerPoint.occursIn .exact (',' :: domains) = true ↔
      ∃ tail ∈ domains :: Text.tailsAfter ',' domains,
        beginsWithDottedName tail = true := by
  simp only [Text.mem_cons_tailsAfter_iff, beginsWithDottedName_iff,
    Regexp.occursIn_iff, leads_innerPoint_iff]
  constructor
  · rintro ⟨start, last, -, first, label, next, notNegated, inLabel, inEntry,
      covers⟩
    have isSuffix := Covers.append_suffix_iff.mpr ⟨start, last, covers, rfl⟩
    exact
      ⟨_, by simpa using isSuffix, first, label, next, _, rfl, notNegated,
        inLabel, inEntry⟩
  · rintro ⟨_, isSuffix, first, label, next, rest, rfl, notNegated, inLabel,
      inEntry⟩
    have beginsPiece :
        [','] ++ ([first] ++ (label ++ (['.'] ++ [next]))) ++ rest <:+
          ',' :: domains := by
      simpa using isSuffix
    obtain ⟨start, last, covers, -⟩ := Covers.append_suffix_iff.mp beginsPiece
    exact
      ⟨start, last, covers.start_le, first, label, next, notNegated, inLabel,
        inEntry, covers⟩

theorem restrictedBySearch_eq
    (domains : Text) :
    restrictedBySearch domains = namesRealDomain domains := by
  rw [Bool.eq_iff_iff, restrictedBySearch, namesRealDomain, Bool.or_eq_true,
    Bool.or_eq_true, occursIn_innerPoint_iff, List.any_eq_true, List.elem_iff,
    Text.contains_iff, Text.mem_splitOn_iff_infix (by decide)]
  rfl

/-- Searches in the whole list of domains decide as looking at its entries does. -/
theorem actionOf_eq_actionBySearch
    (mark : ContentMark)
    (domains body : Text) :
    actionOf mark domains body =
      actionBySearch mark.action domains body := by
  have blank :
      hasBlankEntry (List.splitOn ',' domains) =
        namelessEntry.occursIn .exact domains := by
    rw [Bool.eq_iff_iff, hasBlankEntry_iff, occursIn_namelessEntry_iff]
  simp only [actionOf, actionBySearch, blank, restrictedBySearch_eq,
    ContentMark.needsDomain_iff]
  split_ifs <;> simp_all

/-! ## What rules do -/

/-- A rule is too broad for an entry without a name, or without a real domain where it asks for too much. -/
theorem actionOf_eq_tooBroad_iff :
    actionOf mark domains body = .tooBroad ↔
      (domains ≠ [] ∧ HasNamelessEntry (List.splitOn ',' domains)) ∨
        ¬ HasRealDomain (List.splitOn ',' domains) ∧
          (mark.needsDomain = true ∨ body.length < leastBodyLength) := by
  have markNotBroad : mark.action ≠ .tooBroad := by
    cases mark <;> decide
  rw [actionOf, ← hasBlankEntry_iff]
  by_cases blank :
      domains ≠ [] ∧ hasBlankEntry (List.splitOn ',' domains) = true
  · exact iff_of_true (if_pos blank) (Or.inl blank)
  have named :
      domains ≠ [] → ¬ HasNamelessEntry (List.splitOn ',' domains) := by
    rw [← hasBlankEntry_iff]
    exact not_and.mp blank
  rw [if_neg blank, or_iff_right blank, ← namesRealDomain_iff named]
  by_cases real : namesRealDomain domains = true
  · rw [if_pos real]
    exact iff_of_false markNotBroad fun condition => condition.1 real
  · rw [if_neg real, and_iff_right real]
    split_ifs with broad
    · exact iff_of_true rfl broad
    · exact iff_of_false markNotBroad broad

/-- What the text between the number signs of a rule asks for. -/
inductive Asks : Text → ContentAction → Prop where
  | hide : Asks [] .hide
  | unhide : Asks ['@'] .unhide
  | emulateHiding : Asks ['?'] .emulateHiding
  | runSnippet : Asks ['$'] .runSnippet

theorem Asks.exists_mark
    {separator : Text}
    {asked : ContentAction}
    (asks : Asks separator asked) :
    ∃ mark : ContentMark,
      ContentMark.ofText separator = .ok mark ∧
        mark.action = asked ∧
        (mark.needsDomain = true ↔ separator = ['?'] ∨ separator = ['$']) := by
  cases asks with
  | hide =>
      exact ⟨.hide, rfl, rfl, by decide⟩
  | unhide =>
      exact ⟨.unhide, rfl, rfl, by decide⟩
  | emulateHiding =>
      exact ⟨.emulateHiding, rfl, rfl, by decide⟩
  | runSnippet =>
      exact ⟨.runSnippet, rfl, rfl, by decide⟩

/--
The entries of its list of domains tell what a rule on contents does: with an entry without a name it is too broad, and
without a real domain it is so if it needs one or has a short body.  Otherwise it does what it asks for.  Searches in the
whole list tell the same, although they may run from one entry into the next.
-/
theorem action_ofParts_iff_entries
    {separator : Text}
    {asked : ContentAction}
    (asks : Asks separator asked)
    (text domains body : Text) :
    ∃ mark rule,
      ContentMark.ofText separator = .ok mark ∧
        ofParts text ⟨domains, mark, body⟩ = rule ∧
        rule.action = actionBySearch asked domains body ∧
        (rule.action = .tooBroad ↔
          (domains ≠ [] ∧ HasNamelessEntry (List.splitOn ',' domains)) ∨
            ¬ HasRealDomain (List.splitOn ',' domains) ∧
              (separator = ['?'] ∨ separator = ['$'] ∨ body.length < 3)) ∧
        (rule.action ≠ .tooBroad → rule.action = asked) := by
  obtain ⟨mark, read, rfl, needsDomain⟩ := asks.exists_mark
  refine ⟨mark, _, read, rfl, ?_, ?_, ?_⟩
  · exact actionOf_eq_actionBySearch mark domains body
  · rw [← or_assoc, ← needsDomain]
    exact actionOf_eq_tooBroad_iff
  · intro notTooBroad
    exact (allows_of_actionOf_ne_tooBroad notTooBroad).2

/--
A search runs over the comma after an entry without a name, but the rule is too broad for that entry.  A line feed after
a tilde does not make that a name, and the local host among the entries is enough for a rule that needs a real domain.
-/
theorem action_ofParts_iff_entries_malformed :
    (restrictedBySearch ",.b".toList = true ∧
        ∃ mark rule,
          ContentMark.ofText ['$'] = .ok mark ∧
            ofParts [] ⟨",.b".toList, mark, "log".toList⟩ = rule ∧
            rule.action = .tooBroad) ∧
      (∃ mark rule,
        ContentMark.ofText [] = .ok mark ∧
          ofParts [] ⟨"a.b,~\n".toList, mark, "#long".toList⟩ = rule ∧
          rule.action = .tooBroad) ∧
      ∃ mark rule,
        ContentMark.ofText ['?'] = .ok mark ∧
          ofParts [] ⟨"~x.y,localhost".toList, mark, ['b']⟩ = rule ∧
          rule.action = .emulateHiding := by
  refine ⟨⟨by decide +kernel, ?_⟩, ?_, ?_⟩
  · obtain ⟨mark, rule, read, made, -, broad, -⟩ :=
      action_ofParts_iff_entries .runSnippet [] ",.b".toList "log".toList
    have nameless : HasNamelessEntry (List.splitOn ',' ",.b".toList) :=
      ⟨[], Or.inl rfl, Or.inl (by decide)⟩
    exact ⟨mark, rule, read, made, broad.mpr (Or.inl ⟨nofun, nameless⟩)⟩
  · obtain ⟨mark, rule, read, made, -, broad, -⟩ :=
      action_ofParts_iff_entries .hide [] "a.b,~\n".toList "#long".toList
    have nameless : HasNamelessEntry (List.splitOn ',' "a.b,~\n".toList) :=
      ⟨['~'], Or.inr rfl, Or.inr (by decide)⟩
    exact ⟨mark, rule, read, made, broad.mpr (Or.inl ⟨nofun, nameless⟩)⟩
  · obtain ⟨mark, rule, read, made, -, broad, narrow⟩ :=
      action_ofParts_iff_entries .emulateHiding [] "~x.y,localhost".toList
        ['b']
    have named :
        ¬ HasNamelessEntry (List.splitOn ',' "~x.y,localhost".toList) := by
      rw [← hasBlankEntry_iff]
      decide
    have real :
        HasRealDomain (List.splitOn ',' "~x.y,localhost".toList) :=
      ⟨"localhost".toList, by decide, Or.inl rfl⟩
    refine ⟨mark, rule, read, made, narrow ?_⟩
    rw [ne_eq, broad]
    exact not_or.mpr ⟨fun nameless => named nameless.2, fun short => short.1 real⟩

end ContentRule

end AdFilter
