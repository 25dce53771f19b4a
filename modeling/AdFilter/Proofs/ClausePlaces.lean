import AdFilter.Proofs.OptionClauses
import AdFilter.Proofs.TextPieces

namespace AdFilter

/-!
# Where the options of a text begin

A dollar sign begins the options of a text if nothing but options with commas between them follows it, up to the end of the
text or up to a line feed that is its last character.  A text is cut at the first such dollar sign, also if others
are values, and the options that it is cut into spell the rest of the text.  Only a line feed after a key without
a value is left out, for a value may hold one.
-/

namespace OptionClause

variable {text pattern tail option last key : Text} {options : List Text} {c : Char}

/-- One or more well-formed options with commas between them. -/
def IsClause (text : Text) : Prop :=
  ∃ options, options ≠ [] ∧ (∀ option ∈ options, WellFormed option) ∧
    text = [','].intercalate options

/-- A text can be cut after a pattern: a dollar sign follows, then a clause up to the end or up to a last line feed. -/
def CutsAt (pattern text : Text) : Prop :=
  ∃ clause, IsClause clause ∧
    (text = pattern ++ '$' :: clause ∨
      text = pattern ++ '$' :: (clause ++ ['\n']))

/-- Options spell a text: it is the options with commas between them, perhaps with a line feed if the last one has no value. -/
structure Spell (options : List Text) (text : Text) : Prop where
  notEmpty : options ≠ []
  wellFormed : ∀ option ∈ options, WellFormed option
  joined :
    text = [','].intercalate options ∨
      text = [','].intercalate options ++ ['\n'] ∧
        ∀ last, options.getLast? = some last → '=' ∉ last

/-- What a text is to be split into: a pattern and options after its first such place, or a pattern alone if it has none. -/
inductive SplitsInto (text pattern : Text) (options : List Text) : Prop where
  | clause
      {tail : Text}
      (shape : text = pattern ++ '$' :: tail)
      (place : CutsAt pattern text)
      (first :
        ∀ earlier, CutsAt earlier text → pattern.length ≤ earlier.length)
      (spell : Spell options tail)
  | noClause
      (nowhere : ∀ place, ¬ CutsAt place text)
      (allPattern : pattern = text)
      (noOptions : options = [])

/-! ## The last option -/

/-- An option without a value is a key, perhaps with a tilde in front. -/
theorem WellFormed.exists_key
    (wellFormed : WellFormed option)
    (noValue : '=' ∉ option) :
    ∃ key, IsKey key ∧ (option = key ∨ option = '~' :: key) := by
  cases wellFormed with
  | plain isKey isAssignment =>
      cases isAssignment with
      | nothing =>
          exact ⟨_, isKey, Or.inl (List.append_nil _)⟩
      | value noComma =>
          simp at noValue
  | negated isKey isAssignment =>
      cases isAssignment with
      | nothing =>
          exact ⟨_, isKey, Or.inr (by rw [List.append_nil])⟩
      | value noComma =>
          simp at noValue

/-- A value may end in a line feed. -/
theorem WellFormed.append_lineFeed
    (wellFormed : WellFormed option)
    (hasValue : '=' ∈ option) :
    WellFormed (option ++ ['\n']) := by
  have longer
      {assignment : Text}
      (isAssignment : IsAssignment assignment)
      (hasValue : '=' ∈ assignment) :
      IsAssignment (assignment ++ ['\n']) := by
    cases isAssignment with
    | nothing =>
        cases hasValue
    | value noComma =>
        exact .value (by simpa using noComma)
  cases wellFormed with
  | plain isKey isAssignment =>
      have inAssignment :=
        (List.mem_append.mp hasValue).resolve_left
          (isKey.not_mem (by decide))
      rw [List.append_assoc]
      exact .plain isKey (longer isAssignment inAssignment)
  | negated isKey isAssignment =>
      have inAssignment :=
        (List.mem_append.mp
          ((List.mem_cons.mp hasValue).resolve_left (by decide))).resolve_left
          (isKey.not_mem (by decide))
      rw [List.cons_append, List.append_assoc]
      exact .negated isKey (longer isAssignment inAssignment)

/-- A line feed after a key is no part of an option. -/
theorem isOption_key_lineFeed
    (isKey : IsKey key)
    (shape : withoutTilde option = key ++ ['\n']) :
    isOption option = false ∧ valuePart (withoutTilde option) = ['\n'] := by
  have valueShape : valuePart (withoutTilde option) = ['\n'] := by
    rw [shape, valuePart, List.dropWhile_append_of_pos isKey.chars]
    rfl
  refine ⟨?_, valueShape⟩
  rw [isOption, valueShape]
  simp

/-- What has nothing but a line feed after its key has no equals sign. -/
theorem exists_append_lineFeed
    (valueShape : valuePart (withoutTilde option) = ['\n']) :
    ∃ front, '=' ∉ front ∧ option = front ++ ['\n'] := by
  have noEquals (text : Text) : '=' ∉ keyPart text := by
    intro member
    exact absurd (List.mem_takeWhile_imp member) (by decide)
  have parts :
      keyPart (withoutTilde option) ++ ['\n'] = withoutTilde option := by
    rw [← valueShape]
    exact List.takeWhile_append_dropWhile
  unfold withoutTilde at parts
  split at parts
  · rename_i rest
    exact
      ⟨'~' :: keyPart rest, by simpa using noEquals rest,
        congrArg ('~' :: ·) parts.symm⟩
  · exact ⟨keyPart option, noEquals option, parts.symm⟩

/-- The last option is all of the last piece, or all but a line feed after a key without a value. -/
theorem lastOption?_eq_some_iff
    (noComma : ',' ∉ last) :
    lastOption? last = some option ↔
      WellFormed option ∧
        (last = option ∨ last = option ++ ['\n'] ∧ '=' ∉ option) := by
  constructor
  · intro read
    unfold lastOption? at read
    split at read
    · rename_i whole
      obtain rfl := Option.some.inj read
      exact ⟨wellFormed_iff.mpr ⟨whole, noComma⟩, Or.inl rfl⟩
    · split at read
      · rename_i lineFeed
        obtain ⟨valueShape, isOption⟩ := lineFeed
        obtain ⟨front, noValue, rfl⟩ := exists_append_lineFeed valueShape
        rw [List.dropLast_concat] at read isOption
        obtain rfl := Option.some.inj read
        rw [List.mem_append, not_or] at noComma
        exact
          ⟨wellFormed_iff.mpr ⟨isOption, noComma.1⟩, Or.inr ⟨rfl, noValue⟩⟩
      · cases read
  · rintro ⟨wellFormed, rfl | ⟨rfl, noValue⟩⟩
    · rw [lastOption?, if_pos wellFormed.isOption]
    · obtain ⟨key, isKey, shape⟩ := wellFormed.exists_key noValue
      have shapeAfter :
          withoutTilde (option ++ ['\n']) = key ++ ['\n'] := by
        rcases shape with rfl | rfl
        · exact withoutTilde_append isKey ['\n']
        · rfl
      obtain ⟨notWhole, valueShape⟩ := isOption_key_lineFeed isKey shapeAfter
      rw [lastOption?, notWhole, if_neg Bool.false_ne_true,
        List.dropLast_concat, if_pos ⟨valueShape, wellFormed.isOption⟩]

/-! ## Clauses -/

/-- What is read from the text after a dollar sign spells it. -/
theorem spell_of_options?
    (read : options? tail = some options) :
    Spell options tail := by
  rcases List.eq_nil_or_concat' (List.splitOn ',' tail) with
    isEmpty | ⟨init, last, pieces⟩
  · exact absurd isEmpty (List.splitOn_ne_nil ',' tail)
  · have noComma : ∀ piece ∈ init ++ [last], ',' ∉ piece := by
      intro piece isPiece member
      rw [← pieces] at isPiece
      exact (Text.mem_of_mem_splitOn isPiece member).2 rfl
    have joined : tail = [','].intercalate (init ++ [last]) := by
      rw [← pieces]
      exact (List.intercalate_splitOn ',').symm
    rw [options?, pieces, ofPieces?_concat] at read
    split at read
    · rename_i areOptions
      obtain ⟨option, readLast, rfl⟩ := Option.map_eq_some_iff.mp read
      obtain ⟨lastWellFormed, lastShape⟩ :=
        (lastOption?_eq_some_iff (noComma last (by simp))).mp readLast
      refine ⟨by simp, ?_, ?_⟩
      · intro piece member
        rcases List.mem_append.mp member with isEarlier | isLast
        · exact
            wellFormed_iff.mpr
              ⟨List.all_eq_true.mp areOptions piece isEarlier,
                noComma piece (by simp [isEarlier])⟩
        · rw [List.mem_singleton.mp isLast]
          exact lastWellFormed
      · rcases lastShape with rfl | ⟨rfl, noValue⟩
        · exact Or.inl joined
        · rw [Text.intercalate_concat_append] at joined
          exact Or.inr ⟨joined, by simpa using noValue⟩
    · cases read

/-- Options are read from what they spell. -/
theorem Spell.options?_eq
    (spell : Spell options tail) :
    options? tail = some options := by
  obtain ⟨notEmpty, wellFormed, rfl | ⟨rfl, noValue⟩⟩ := spell
  · exact options?_intercalate notEmpty wellFormed
  · obtain ⟨init, last, rfl⟩ :=
      (List.eq_nil_or_concat' options).resolve_left notEmpty
    have lastWellFormed := wellFormed last (by simp)
    have noComma : ∀ piece ∈ init ++ [last ++ ['\n']], ',' ∉ piece := by
      intro piece member
      rcases List.mem_append.mp member with isEarlier | isLast
      · exact (wellFormed piece (by simp [isEarlier])).comma_not_mem
      · rw [List.mem_singleton.mp isLast]
        simpa using lastWellFormed.comma_not_mem
    have pieces :
        List.splitOn ',' ([','].intercalate (init ++ [last ++ ['\n']])) =
          init ++ [last ++ ['\n']] :=
      List.splitOn_intercalate ',' noComma (by simp)
    have areOptions : init.all isOption = true := by
      apply List.all_eq_true.mpr
      intro piece member
      exact (wellFormed piece (by simp [member])).isOption
    have readLast : lastOption? (last ++ ['\n']) = some last :=
      (lastOption?_eq_some_iff (noComma _ (by simp))).mpr
        ⟨lastWellFormed, Or.inr ⟨rfl, by simpa using noValue⟩⟩
    rw [← Text.intercalate_concat_append, options?, pieces,
      ofPieces?_concat, if_pos areOptions, readLast, Option.map_some]

/-! ## Places -/

/-- A text can be cut where options spell what follows a dollar sign. -/
theorem cutsAt_iff :
    CutsAt pattern text ↔
      ∃ tail options, text = pattern ++ '$' :: tail ∧ Spell options tail := by
  constructor
  · rintro ⟨_, ⟨options, notEmpty, wellFormed, rfl⟩, shape | shape⟩
    · exact ⟨_, options, shape, notEmpty, wellFormed, Or.inl rfl⟩
    · obtain ⟨init, last, rfl⟩ :=
        (List.eq_nil_or_concat' options).resolve_left notEmpty
      refine ⟨[','].intercalate (init ++ [last]) ++ ['\n'], ?_⟩
      by_cases hasValue : '=' ∈ last
      · -- The line feed belongs to the value of the last option.
        have longer :
            ∀ option ∈ init ++ [last ++ ['\n']], WellFormed option := by
          intro option member
          rcases List.mem_append.mp member with isEarlier | isLast
          · exact wellFormed option (by simp [isEarlier])
          · rw [List.mem_singleton.mp isLast]
            exact (wellFormed last (by simp)).append_lineFeed hasValue
        exact
          ⟨init ++ [last ++ ['\n']], shape, by simp, longer,
            Or.inl (Text.intercalate_concat_append init last ['\n']).symm⟩
      · exact
          ⟨init ++ [last], shape, notEmpty, wellFormed,
            Or.inr ⟨rfl, by simpa using hasValue⟩⟩
  · rintro ⟨tail, options, shape, notEmpty, wellFormed, joined⟩
    have isClause : IsClause ([','].intercalate options) :=
      ⟨options, notEmpty, wellFormed, rfl⟩
    rcases joined with rfl | ⟨rfl, _⟩
    · exact ⟨_, isClause, Or.inl shape⟩
    · exact ⟨_, isClause, Or.inr shape⟩

theorem not_cutsAt_nil :
    ¬ CutsAt pattern [] := by
  rw [cutsAt_iff]
  rintro ⟨tail, options, shape, _⟩
  simp at shape

/-- A text can be cut before its first character, which is a dollar sign then, or where the rest of it can be cut. -/
theorem cutsAt_cons_iff :
    CutsAt pattern (c :: text) ↔
      (pattern = [] ∧ c = '$' ∧ ∃ options, Spell options text) ∨
        ∃ shorter, pattern = c :: shorter ∧ CutsAt shorter text := by
  simp only [cutsAt_iff]
  cases pattern with
  | nil =>
      simp [eq_comm]
  | cons first others =>
      simp [eq_comm, and_assoc]

/-- What the rest of a text is split into tells what the text is, if it cannot be cut before its first character. -/
theorem SplitsInto.cons
    (splits : SplitsInto text pattern options)
    (notHere : ¬ CutsAt [] (c :: text)) :
    SplitsInto (c :: text) (c :: pattern) options := by
  have place_of_cutsAt
      {place : Text}
      (cuts : CutsAt place (c :: text)) :
      ∃ shorter, place = c :: shorter ∧ CutsAt shorter text := by
    rcases cutsAt_cons_iff.mp cuts with ⟨rfl, _⟩ | later
    · exact absurd cuts notHere
    · exact later
  cases splits with
  | clause shape place first spell =>
      refine .clause (by rw [shape]; rfl) ?_ ?_ spell
      · exact cutsAt_cons_iff.mpr (Or.inr ⟨pattern, rfl, place⟩)
      · intro earlier cuts
        obtain ⟨shorter, rfl, cutsRest⟩ := place_of_cutsAt cuts
        exact Nat.succ_le_succ (first shorter cutsRest)
  | noClause nowhere allPattern noOptions =>
      refine .noClause ?_ (by rw [allPattern]) noOptions
      intro place cuts
      obtain ⟨shorter, _, cutsRest⟩ := place_of_cutsAt cuts
      exact nowhere shorter cutsRest

theorem splitsInto_split
    (text : Text) :
    SplitsInto text (split text).1 (split text).2 := by
  induction text with
  | nil =>
      exact .noClause (fun _ => not_cutsAt_nil) rfl rfl
  | cons c rest inductionHypothesis =>
      rw [split]
      split
      · rename_i options read
        obtain ⟨rfl, readRest⟩ := Option.ite_none_right_eq_some.mp read
        have spell := spell_of_options? readRest
        have here : CutsAt [] ('$' :: rest) :=
          cutsAt_iff.mpr ⟨rest, options, rfl, spell⟩
        exact .clause rfl here (fun _ _ => Nat.zero_le _) spell
      · rename_i noneRead
        refine inductionHypothesis.cons ?_
        intro here
        rcases cutsAt_cons_iff.mp here with
          ⟨_, rfl, options, spell⟩ | ⟨_, impossible, _⟩
        · rw [if_pos rfl, spell.options?_eq] at noneRead
          cases noneRead
        · cases impossible

/-- There is one way only to split a text. -/
theorem SplitsInto.unique
    {otherPattern : Text}
    {otherOptions : List Text}
    (splits : SplitsInto text pattern options)
    (splitsToo : SplitsInto text otherPattern otherOptions) :
    pattern = otherPattern ∧ options = otherOptions := by
  cases splits with
  | clause shape place first spell =>
      cases splitsToo with
      | clause otherShape otherPlace otherFirst otherSpell =>
          have sameLength :=
            Nat.le_antisymm (first _ otherPlace) (otherFirst _ place)
          obtain ⟨rfl, sameTail⟩ :=
            List.append_inj (shape.symm.trans otherShape) sameLength
          obtain rfl := List.tail_eq_of_cons_eq sameTail
          have sameRead := spell.options?_eq.symm.trans otherSpell.options?_eq
          exact ⟨rfl, Option.some.inj sameRead⟩
      | noClause nowhere _ _ =>
          exact absurd place (nowhere pattern)
  | noClause nowhere allPattern noOptions =>
      cases splitsToo with
      | clause _ otherPlace _ _ =>
          exact absurd otherPlace (nowhere otherPattern)
      | noClause _ otherAllPattern otherNoOptions =>
          exact
            ⟨allPattern.trans otherAllPattern.symm,
              noOptions.trans otherNoOptions.symm⟩

/--
A text is split at the first dollar sign with a clause after it, up to the end or up to a last line feed, into what precedes
it and well-formed options that spell what follows it; a text without such a dollar sign is all pattern.
-/
theorem split_eq_iff_splitsInto :
    split text = (pattern, options) ↔ SplitsInto text pattern options := by
  have splits := splitsInto_split text
  constructor
  · intro cut
    rwa [cut] at splits
  · intro splitsToo
    obtain ⟨rfl, rfl⟩ := splits.unique splitsToo
    rfl

/-- Dollar signs with no clause after them belong to the pattern, those after the first clause begins to a value. -/
example :
    split "a$b c$x=1$y,~z\n".toList =
        ("a$b c".toList, ["x=1$y".toList, "~z".toList]) ∧
      split "a$x,y=\n".toList = ("a".toList, ["x".toList, "y=\n".toList]) ∧
      split "a$x\n\n".toList = ("a$x\n\n".toList, []) := by
  decide +kernel

end OptionClause

end AdFilter
