import Mathlib
import AdFilter.Pattern.Source

namespace AdFilter

/-!
# The shape of a pattern

The marks at the ends of a pattern tie it to places of an address, and what they leave is its body.  Reading a
pattern in this way needs no rewriting of its text.  The source of its expression is made by rewriting all the same,
and this module shows that no rewriting mistakes what another one has written: the source is put together from
the sources of an anchor, of the characters of the body and of the end.
-/

namespace Pattern

/-- What the start of a pattern is tied to. -/
inductive Anchor where
  | nowhere
  | addressStart
  | domainLabel
  deriving Repr, DecidableEq

/-- A pattern without the marks at its ends, and what these marks say. -/
structure Shape where
  anchor : Anchor
  body : Text
  reachesEnd : Bool
  deriving Repr, DecidableEq

/-- The text without the runs of wildcards at its ends, and without a bar at the end that follows a separator. -/
def core (text : Text) : Text :=
  let inner := Text.trim (· = '*') text
  if ['^', '|'].isSuffixOf inner then inner.dropLast else inner

namespace Shape

/-- The shape of a text after its anchor. -/
def ofAnchored (anchor : Anchor) (rest : Text) : Shape :=
  match ['|'].isSuffixOf? rest with
  | some body => ⟨anchor, body, true⟩
  | none => ⟨anchor, rest, false⟩

/-- The shape of a text that has been trimmed. -/
def ofCore : Text → Shape
  | '|' :: '|' :: rest => ofAnchored .domainLabel rest
  | '|' :: rest => ofAnchored .addressStart rest
  | rest => ofAnchored .nowhere rest

/-- The shape of a pattern. -/
def ofText (text : Text) : Shape :=
  ofCore (core text)

/-- The shape with every run of wildcards in its body shortened to a single one. -/
def collapsed (shape : Shape) : Shape :=
  ⟨shape.anchor, collapseWildcards shape.body, shape.reachesEnd⟩

end Shape

theorem isPrefixOf?_singleton
    (c : Char)
    (text : Text) :
    [c].isPrefixOf? text =
      if text.head? = some c then some text.tail else none := by
  cases text with
  | nil =>
      rfl
  | cons first rest =>
      by_cases same : first = c
      · simp [List.isPrefixOf?, same]
      · simp [List.isPrefixOf?, same, Ne.symm same]

theorem isSuffixOf?_singleton
    (c : Char)
    (text : Text) :
    [c].isSuffixOf? text =
      if text.getLast? = some c then some text.dropLast else none := by
  rw [List.isSuffixOf?, List.reverse_singleton, isPrefixOf?_singleton]
  simp only [List.head?_reverse, List.tail_reverse]
  split <;> simp

theorem isSuffixOf_pair_iff
    {first second : Char}
    {text : Text} :
    [first, second].isSuffixOf text = true ↔
      text.getLast? = some second ∧
        text.dropLast.getLast? = some first := by
  rw [List.isSuffixOf_iff_suffix]
  constructor
  · intro suffix
    rcases suffix with ⟨front, rfl⟩
    have split : front ++ [first, second] = (front ++ [first]) ++ [second] := by
      simp
    rw [split]
    simp
  · intro lasts
    obtain ⟨lastShape, beforeShape⟩ := lasts
    obtain ⟨front, rfl⟩ := List.getLast?_eq_some_iff.mp lastShape
    rw [List.dropLast_concat] at beforeShape
    obtain ⟨earlier, rfl⟩ := List.getLast?_eq_some_iff.mp beforeShape
    exact ⟨earlier, by simp⟩

/-! ## Shortened runs of wildcards -/

@[simp] theorem head?_collapseWildcards
    (text : Text) :
    (collapseWildcards text).head? = text.head? := by
  induction text with
  | nil =>
      rfl
  | cons c rest inductionHypothesis =>
      simp only [collapseWildcards, inductionHypothesis]
      split
      · rename_i both
        rw [inductionHypothesis, both.1, both.2]
        rfl
      · rfl

/-- A wildcard before another one is left out. -/
theorem collapseWildcards_cons
    (c : Char)
    (rest : Text) :
    collapseWildcards (c :: rest) =
      if c = '*' ∧ rest.head? = some '*' then
        collapseWildcards rest
      else
        c :: collapseWildcards rest := by
  simp only [collapseWildcards, head?_collapseWildcards]

@[simp] theorem collapseWildcards_cons_of_ne
    {c : Char}
    (notWildcard : c ≠ '*')
    (rest : Text) :
    collapseWildcards (c :: rest) = c :: collapseWildcards rest := by
  simp [collapseWildcards_cons, notWildcard]

/-- Seen from the end, a wildcard after another one is left out. -/
theorem collapseWildcards_concat
    (text : Text)
    (c : Char) :
    collapseWildcards (text ++ [c]) =
      if c = '*' ∧ text.getLast? = some '*' then
        collapseWildcards text
      else
        collapseWildcards text ++ [c] := by
  induction text with
  | nil =>
      simp [collapseWildcards]
  | cons first rest inductionHypothesis =>
      rw [List.cons_append, collapseWildcards_cons,
        collapseWildcards_cons, inductionHypothesis]
      cases rest with
      | nil =>
          by_cases bothWildcards : c = '*' ∧ first = '*'
          · simp [collapseWildcards, bothWildcards]
          · have notEither : ¬ (first = '*' ∧ c = '*') :=
              fun both => bothWildcards both.symm
            simp [collapseWildcards, bothWildcards, notEither]
      | cons second others =>
          rw [List.cons_append, List.head?_cons, List.head?_cons,
            List.getLast?_cons_cons]
          by_cases begins : first = '*' ∧ some second = some '*'
          · simp only [begins, and_self, if_true]
          · simp only [begins, if_false]
            split <;> rfl

@[simp] theorem getLast?_collapseWildcards
    (text : Text) :
    (collapseWildcards text).getLast? = text.getLast? := by
  induction text using List.reverseRecOn with
  | nil =>
      rfl
  | append_singleton front c inductionHypothesis =>
      rw [collapseWildcards_concat]
      split
      · rename_i both
        rw [inductionHypothesis, both.1, both.2]
        simp
      · simp

theorem collapseWildcards_concat_of_ne
    {c : Char}
    (notWildcard : c ≠ '*')
    (text : Text) :
    collapseWildcards (text ++ [c]) = collapseWildcards text ++ [c] := by
  simp [collapseWildcards_concat, notWildcard]

theorem dropLast_collapseWildcards
    {c : Char}
    (notWildcard : c ≠ '*')
    {text : Text}
    (last : text.getLast? = some c) :
    (collapseWildcards text).dropLast =
      collapseWildcards text.dropLast := by
  obtain ⟨front, rfl⟩ := List.getLast?_eq_some_iff.mp last
  simp [collapseWildcards_concat_of_ne notWildcard]

/-- A character other than a wildcard ends the text with short runs exactly if it ends the text. -/
theorem isSuffixOf?_collapseWildcards
    {c : Char}
    (notWildcard : c ≠ '*')
    (text : Text) :
    [c].isSuffixOf? (collapseWildcards text) =
      ([c].isSuffixOf? text).map collapseWildcards := by
  simp only [isSuffixOf?_singleton, getLast?_collapseWildcards]
  split
  · rename_i last
    simp [dropLast_collapseWildcards notWildcard last]
  · rfl

/-- A wildcard in front of the text with short runs stands for the whole run in front of the text. -/
theorem withoutLead_collapseWildcards
    (text : Text) :
    withoutLead ['*'] (collapseWildcards text) =
      collapseWildcards (text.dropWhile (· = '*')) := by
  induction text with
  | nil =>
      rfl
  | cons c rest inductionHypothesis =>
      by_cases isWildcard : c = '*'
      · subst isWildcard
        rw [collapseWildcards_cons,
          List.dropWhile_cons_of_pos (by simp), ← inductionHypothesis]
        by_cases more : rest.head? = some '*'
        · simp [more]
        · simp [more, withoutLead, isPrefixOf?_singleton]
      · rw [List.dropWhile_cons_of_neg (by simpa using isWildcard),
          collapseWildcards_cons_of_ne isWildcard]
        simp [withoutLead, isPrefixOf?_singleton, isWildcard]

/-- A wildcard at the end of the text with short runs stands for the whole run at the end of the text. -/
theorem withoutTail_collapseWildcards
    (text : Text) :
    withoutTail ['*'] (collapseWildcards text) =
      collapseWildcards (text.reverse.dropWhile (· = '*')).reverse := by
  induction text using List.reverseRecOn with
  | nil =>
      rfl
  | append_singleton front last inductionHypothesis =>
      rw [List.reverse_append, List.reverse_singleton, List.singleton_append]
      by_cases isWildcard : last = '*'
      · subst isWildcard
        rw [List.dropWhile_cons_of_pos (by simp), ← inductionHypothesis,
          collapseWildcards_concat]
        by_cases more : front.getLast? = some '*'
        · simp [more]
        · simp [more, withoutTail, isSuffixOf?_singleton]
      · rw [List.dropWhile_cons_of_neg (by simpa using isWildcard),
          collapseWildcards_concat_of_ne isWildcard]
        simp [withoutTail, isSuffixOf?_singleton, isWildcard,
          collapseWildcards_concat_of_ne isWildcard]

/-- A bar after a separator ends the text with short runs exactly if they end the text. -/
theorem isSuffixOf_collapseWildcards
    (text : Text) :
    ['^', '|'].isSuffixOf (collapseWildcards text) =
      ['^', '|'].isSuffixOf text := by
  rw [Bool.eq_iff_iff, isSuffixOf_pair_iff, isSuffixOf_pair_iff,
    getLast?_collapseWildcards]
  refine and_congr_right fun last => ?_
  rw [dropLast_collapseWildcards (by decide) last,
    getLast?_collapseWildcards]

/-- Trimming the text with short runs shortens the runs of the trimmed text. -/
theorem trimmed_eq
    (text : Text) :
    trimmed text = collapseWildcards (core text) := by
  have inner :
      withoutTail ['*'] (withoutLead ['*'] (collapseWildcards text)) =
        collapseWildcards (Text.trim (· = '*') text) := by
    rw [withoutLead_collapseWildcards, withoutTail_collapseWildcards,
      Text.trim]
  simp only [trimmed, core, inner, isSuffixOf_collapseWildcards]
  split
  · rename_i barAfterSeparator
    exact dropLast_collapseWildcards (by decide)
      (isSuffixOf_pair_iff.mp barAfterSeparator).1
  · rfl

/-- After an anchor, shortening runs leaves the bar at the end alone. -/
theorem Shape.ofAnchored_collapseWildcards
    (anchor : Anchor)
    (rest : Text) :
    Shape.ofAnchored anchor (collapseWildcards rest) =
      (Shape.ofAnchored anchor rest).collapsed := by
  rw [ofAnchored, ofAnchored, isSuffixOf?_collapseWildcards (by decide)]
  cases ['|'].isSuffixOf? rest <;> rfl

theorem Shape.ofCore_bar
    {rest : Text}
    (single : rest.head? ≠ some '|') :
    Shape.ofCore ('|' :: rest) = Shape.ofAnchored .addressStart rest := by
  cases rest with
  | nil =>
      rfl
  | cons c others =>
      have notBar : c ≠ '|' := by
        simpa using single
      simp [ofCore, notBar]

theorem Shape.ofCore_of_head?_ne
    {text : Text}
    (noBar : text.head? ≠ some '|') :
    Shape.ofCore text = Shape.ofAnchored .nowhere text := by
  cases text with
  | nil =>
      rfl
  | cons c rest =>
      have notBar : c ≠ '|' := by
        simpa using noBar
      simp [ofCore, notBar]

/-- The shape of a text with short runs is that of the text, with short runs in its body. -/
theorem Shape.ofCore_collapseWildcards
    (text : Text) :
    Shape.ofCore (collapseWildcards text) = (Shape.ofCore text).collapsed := by
  by_cases bar : text.head? = some '|'
  · obtain ⟨rest, rfl⟩ := List.head?_eq_some_iff.mp bar
    rw [collapseWildcards_cons_of_ne (by decide)]
    by_cases secondBar : rest.head? = some '|'
    · obtain ⟨others, rfl⟩ := List.head?_eq_some_iff.mp secondBar
      rw [collapseWildcards_cons_of_ne (by decide)]
      exact ofAnchored_collapseWildcards .domainLabel others
    · rw [ofCore_bar secondBar, ofCore_bar (by simpa using secondBar)]
      exact ofAnchored_collapseWildcards .addressStart rest
  · rw [ofCore_of_head?_ne bar, ofCore_of_head?_ne (by simpa using bar)]
    exact ofAnchored_collapseWildcards .nowhere text

/-! ## The source of a shape -/

/-- The source of the expression for a character of a pattern's body. -/
def charSource (c : Char) : Text :=
  if c = '*' then
    wildcardSource
  else if c = '^' then
    separatorSource
  else if needsNoEscape c then
    [c]
  else
    ['\\', c]

/-- The source of the expression for an anchor. -/
def Anchor.source : Anchor → Text
  | .nowhere => []
  | .addressStart => ['^']
  | .domainLabel => domainLabelSource

/-- The source of the expression for the end of a shape. -/
def endSource (reachesEnd : Bool) : Text :=
  if reachesEnd then ['$'] else []

/-- The source of the expression for a shape. -/
def Shape.source (shape : Shape) : Text :=
  shape.anchor.source ++ shape.body.flatMap charSource ++
    endSource shape.reachesEnd

theorem replaceAll_singleton
    (mark : Char)
    (replacement text : Text) :
    Text.replaceAll [mark] replacement text =
      text.flatMap fun c => if c = mark then replacement else [c] := by
  unfold Text.replaceAll
  induction text with
  | nil =>
      rfl
  | cons c rest inductionHypothesis =>
      by_cases same : c = mark
      · simp [Text.replaceFrom, same, inductionHypothesis]
      · simp [Text.replaceFrom, same, Ne.symm same, inductionHypothesis]

/-- The text with escapes and with wildcards replaced, character by character. -/
def escapedSource (c : Char) : Text :=
  if c = '*' then
    wildcardSource
  else if needsNoEscape c then
    [c]
  else
    ['\\', c]

/-- Replacing wildcards leaves the escapes alone. -/
theorem replaceAll_wildcard_escaped
    (text : Text) :
    Text.replaceAll ['*'] wildcardSource (escaped text) =
      text.flatMap escapedSource := by
  rw [replaceAll_singleton, escaped, List.flatMap_assoc]
  refine List.flatMap_congr ?_
  intro c _
  by_cases isWildcard : c = '*'
  · simp [isWildcard, escapedSource]
  · by_cases plain : needsNoEscape c = true
    · simp [isWildcard, plain, escapedSource]
    · simp [isWildcard, plain, escapedSource]

theorem ne_of_needsNoEscape
    {c : Char}
    (plain : needsNoEscape c = true)
    (mark : Char)
    (escapedMark : needsNoEscape mark = false) :
    c ≠ mark := by
  rintro rfl
  simp [plain] at escapedMark

/-- No character of a pattern begins with the mark of a separator after escaping. -/
theorem head?_flatMap_escapedSource_ne
    (text : Text) :
    (text.flatMap escapedSource).head? ≠ some '^' := by
  cases text with
  | nil =>
      simp
  | cons c rest =>
      by_cases isWildcard : c = '*'
      · simp [isWildcard, escapedSource, wildcardSource]
      · by_cases plain : needsNoEscape c = true
        · have notMark := ne_of_needsNoEscape plain '^' (by decide)
          simp [isWildcard, plain, escapedSource, notMark]
        · simp [isWildcard, plain, escapedSource]

theorem replaceFrom_of_not_isPrefixOf
    {needle replacement rest : Text}
    {c : Char}
    (notHere : needle.isPrefixOf (c :: rest) = false) :
    Text.replaceFrom needle replacement 0 (c :: rest) =
      c :: Text.replaceFrom needle replacement 0 rest := by
  simp [Text.replaceFrom, notHere]

/--
Replacing separators only finds those that are written as such: the character after a backslash is its own, even if
it is a backslash itself.
-/
theorem replaceAll_separator_escapedSource
    (text : Text) :
    Text.replaceAll ['\\', '^'] separatorSource
        (text.flatMap escapedSource) =
      text.flatMap charSource := by
  unfold Text.replaceAll
  induction text with
  | nil =>
      rfl
  | cons c rest inductionHypothesis =>
      rw [List.flatMap_cons, List.flatMap_cons, ← inductionHypothesis]
      by_cases isWildcard : c = '*'
      · simp [isWildcard, escapedSource, charSource, wildcardSource,
          Text.replaceFrom]
      · by_cases plain : needsNoEscape c = true
        · have notSeparator := ne_of_needsNoEscape plain '^' (by decide)
          have notBackslash := ne_of_needsNoEscape plain '\\' (by decide)
          simp only [escapedSource, charSource, isWildcard, notSeparator,
            plain, if_true, if_false, List.singleton_append]
          exact replaceFrom_of_not_isPrefixOf
            (by simp [List.isPrefixOf, Ne.symm notBackslash])
        · by_cases isSeparator : c = '^'
          · simp [isSeparator, escapedSource, charSource, needsNoEscape,
              Text.replaceFrom]
          · have nextHead := head?_flatMap_escapedSource_ne rest
            have notAtBackslash :
                ['\\', '^'].isPrefixOf
                  ('\\' :: c :: rest.flatMap escapedSource) = false := by
              simp [List.isPrefixOf, Ne.symm isSeparator]
            have notAtCharacter :
                ['\\', '^'].isPrefixOf
                  (c :: rest.flatMap escapedSource) = false := by
              cases following : rest.flatMap escapedSource with
              | nil =>
                  simp [List.isPrefixOf]
              | cons next others =>
                  rw [following] at nextHead
                  have : '^' ≠ next := by
                    simpa [eq_comm] using nextHead
                  simp [List.isPrefixOf, this]
            simp only [escapedSource, charSource, isWildcard, isSeparator,
              plain, if_false, Bool.false_eq_true, List.cons_append,
              List.nil_append]
            rw [replaceFrom_of_not_isPrefixOf notAtBackslash,
              replaceFrom_of_not_isPrefixOf notAtCharacter]

/-- The sources of the characters stand where the characters stood. -/
theorem withPlaceholders_escaped
    (text : Text) :
    withPlaceholders (escaped text) = text.flatMap charSource := by
  rw [withPlaceholders, replaceAll_wildcard_escaped,
    replaceAll_separator_escapedSource]

theorem head?_separatorSource :
    separatorSource.head? = some '(' :=
  rfl

theorem getLast?_separatorSource :
    separatorSource.getLast? = some ')' :=
  rfl

theorem isPrefixOf?_escapedBar_eq_none
    {text : Text}
    (noBackslash : text.head? ≠ some '\\') :
    escapedBar.isPrefixOf? text = none := by
  cases text with
  | nil =>
      rfl
  | cons c rest =>
      have notBackslash : '\\' ≠ c := by
        simpa [eq_comm] using noBackslash
      simp [escapedBar, List.isPrefixOf?, notBackslash]

/-- Only a bar has the source of a bar. -/
theorem isPrefixOf?_escapedBar_flatMap
    {text : Text}
    (noBar : text.head? ≠ some '|') :
    escapedBar.isPrefixOf? (text.flatMap charSource) = none := by
  cases text with
  | nil =>
      rfl
  | cons c rest =>
      have notBar : c ≠ '|' := by
        simpa using noBar
      rw [List.flatMap_cons]
      by_cases isWildcard : c = '*'
      · refine isPrefixOf?_escapedBar_eq_none ?_
        simp [isWildcard, charSource, wildcardSource]
      · by_cases isSeparator : c = '^'
        · refine isPrefixOf?_escapedBar_eq_none ?_
          simp [isSeparator, charSource, List.head?_append,
            head?_separatorSource]
        · by_cases plain : needsNoEscape c = true
          · refine isPrefixOf?_escapedBar_eq_none ?_
            have notBackslash :=
              ne_of_needsNoEscape plain '\\' (by decide)
            simp [charSource, isWildcard, isSeparator, plain, notBackslash]
          · simp [charSource, isWildcard, isSeparator, plain, escapedBar,
              List.isPrefixOf?, Ne.symm notBar]

theorem flatMap_charSource_bar
    (rest : Text) :
    ('|' :: rest).flatMap charSource =
      escapedBar ++ rest.flatMap charSource :=
  rfl

/-- The source of an anchor stands where the bars in front stood, and the end is still to be looked at. -/
theorem withStartAnchor_flatMap_charSource
    (text : Text) :
    ∃ anchor rest,
      Shape.ofCore text = Shape.ofAnchored anchor rest ∧
        withStartAnchor (text.flatMap charSource) =
          anchor.source ++ rest.flatMap charSource := by
  by_cases bar : text.head? = some '|'
  · obtain ⟨rest, rfl⟩ := List.head?_eq_some_iff.mp bar
    by_cases secondBar : rest.head? = some '|'
    · obtain ⟨others, rfl⟩ := List.head?_eq_some_iff.mp secondBar
      exact ⟨.domainLabel, others, rfl, rfl⟩
    · refine ⟨.addressStart, rest, Shape.ofCore_bar secondBar, ?_⟩
      have notTwice :
          (escapedBar ++ escapedBar).isPrefixOf?
              (escapedBar ++ rest.flatMap charSource) = none :=
        isPrefixOf?_escapedBar_flatMap secondBar
      have once :
          escapedBar.isPrefixOf?
              (escapedBar ++ rest.flatMap charSource) =
            some (rest.flatMap charSource) :=
        rfl
      rw [flatMap_charSource_bar, withStartAnchor, notTwice, once]
      rfl
  · refine ⟨.nowhere, text, Shape.ofCore_of_head?_ne bar, ?_⟩
    have notOnce := isPrefixOf?_escapedBar_flatMap bar
    have notTwice :
        (escapedBar ++ escapedBar).isPrefixOf?
            (text.flatMap charSource) = none := by
      refine Option.eq_none_iff_forall_ne_some.mpr ?_
      intro rest found
      rw [List.isPrefixOf?_eq_some_iff_append_eq, List.append_assoc] at found
      have foundOnce := List.isPrefixOf?_eq_some_iff_append_eq.mpr found
      simp [notOnce] at foundOnce
    rw [withStartAnchor, notTwice, notOnce]
    rfl

theorem getLast?_charSource
    {c : Char}
    (notBar : c ≠ '|') :
    ∃ mark, mark ≠ '|' ∧ (charSource c).getLast? = some mark := by
  by_cases isWildcard : c = '*'
  · exact ⟨'*', by decide, by simp [isWildcard, charSource, wildcardSource]⟩
  · by_cases isSeparator : c = '^'
    · exact
        ⟨')', by decide,
          by simp [isSeparator, charSource, getLast?_separatorSource]⟩
    · refine ⟨c, notBar, ?_⟩
      by_cases plain : needsNoEscape c = true
      · simp [charSource, isWildcard, isSeparator, plain]
      · simp [charSource, isWildcard, isSeparator, plain]

theorem Anchor.getLast?_source_ne
    (anchor : Anchor) :
    anchor.source.getLast? ≠ some '|' := by
  cases anchor with
  | nowhere =>
      simp [source]
  | addressStart =>
      simp [source]
  | domainLabel =>
      have last : domainLabelSource.getLast? = some '?' :=
        rfl
      simp [source, last]

theorem withEndAnchor_of_getLast?_ne
    {text : Text}
    (noBar : text.getLast? ≠ some '|') :
    withEndAnchor text = text := by
  have noEscapedBar : escapedBar.isSuffixOf? text = none := by
    refine Option.eq_none_iff_forall_ne_some.mpr ?_
    intro front found
    rw [List.isSuffixOf?_eq_some_iff_append_eq] at found
    simp [← found, escapedBar] at noBar
  rw [withEndAnchor, noEscapedBar]

/-- The source of the end stands where the bar at the end stood. -/
theorem withEndAnchor_flatMap_charSource
    (anchor : Anchor)
    (rest : Text) :
    withEndAnchor (anchor.source ++ rest.flatMap charSource) =
      (Shape.ofAnchored anchor rest).source := by
  rw [Shape.ofAnchored, isSuffixOf?_singleton]
  induction rest using List.reverseRecOn with
  | nil =>
      rw [withEndAnchor_of_getLast?_ne]
      · simp [Shape.source, endSource]
      · simpa using anchor.getLast?_source_ne
  | append_singleton front last _ =>
      by_cases bar : last = '|'
      · subst bar
        have found :
            escapedBar.isSuffixOf?
                (anchor.source ++ (front ++ ['|']).flatMap charSource) =
              some (anchor.source ++ front.flatMap charSource) := by
          rw [List.isSuffixOf?_eq_some_iff_append_eq, List.flatMap_append,
            List.append_assoc]
          rfl
        rw [withEndAnchor, found]
        simp [Shape.source, endSource]
      · obtain ⟨mark, markNotBar, lastMark⟩ := getLast?_charSource bar
        rw [withEndAnchor_of_getLast?_ne]
        · simp [bar, Shape.source, endSource]
        · simp [List.getLast?_append, lastMark, markNotBar]

/-- The source of a pattern is that of its shape with short runs of wildcards. -/
theorem source_eq
    (text : Text) :
    source text = (Shape.ofText text).collapsed.source := by
  rw [Shape.ofText, ← Shape.ofCore_collapseWildcards, ← trimmed_eq, source,
    withPlaceholders_escaped]
  obtain ⟨anchor, rest, shape, anchored⟩ :=
    withStartAnchor_flatMap_charSource (trimmed text)
  rw [shape, anchored, withEndAnchor_flatMap_charSource]

end Pattern

end AdFilter
