import AdFilter.Proofs.UrlRuleForm

namespace AdFilter

/-!
# Directives that blocking rules inject

A policy is made of directives with semicolons between them.  A page reads a directive without the spaces around it, and
its name up to the next space.  The policy of a blocking rule is searched for forbidden names, but not behind more than one
space.
-/

namespace Text

variable {word : Text}

/-- Dropping spaces at the end does not change what precedes the first space. -/
theorem takeWhile_trim
    (space : Char)
    (text : Text) :
    (trim (· = space) text).takeWhile (· ≠ space) =
      (text.dropWhile (· = space)).takeWhile (· ≠ space) := by
  change
    ((text.dropWhile (· = space)).rdropWhile (· = space)).takeWhile
      (· ≠ space) = _
  generalize text.dropWhile (· = space) = inside
  have noLetters :
      (inside.rtakeWhile (· = space)).takeWhile (· ≠ space) = [] := by
    rw [List.takeWhile_eq_nil_iff]
    intro notEmpty
    simpa using List.mem_rtakeWhile_imp (List.getElem_mem notEmpty)
  conv_rhs =>
    rw [← List.rdropWhile_append_rtakeWhile (l := inside) (p := (· = space)),
      List.takeWhile_append, noLetters]
  split
  · rename_i allLetters
    rw [List.append_nil]
    exact (List.takeWhile_prefix _).eq_of_length allLetters
  · rfl

theorem ascii_of_toLower
    {c : Char}
    (ascii : c.toLower.toNat < 0x80) :
    c.toNat < 0x80 := by
  by_cases upper : c.isUpper = true
  · exact toNat_lt_of_isAlpha (by simp [Char.isAlpha, upper])
  · rwa [Char.toLower_eq_of_not_isUpper upper] at ascii

/-- A text begins with a word of ASCII in any letter case if it begins with letters that have the same lower-case forms. -/
theorem afterSameLetters?_append
    (ascii : ∀ c ∈ word.map Char.toLower, c.toNat < 0x80)
    (rest : Text) :
    afterSameLetters? (word.map Char.toLower) (word ++ rest) =
      some rest := by
  induction word with
  | nil =>
      rfl
  | cons c others inductionHypothesis =>
      rw [List.map_cons, List.forall_mem_cons] at ascii
      have same : sameLetter c.toLower c = true := by
        rw [sameLetter_iff_of_ascii ascii.1 (ascii_of_toLower ascii.1),
          Char.toLower_toLower_eq_toLower]
      rw [List.map_cons, List.cons_append, afterSameLetters?, if_pos same]
      exact inductionHypothesis ascii.2

end Text

namespace Csp

variable {piece word : Text} {mark : Char}

/-! ## What a page reads -/

/-- The name of the directive that a piece of a policy is. -/
def directiveName (piece : Text) : Text :=
  (Text.trim (· = ' ') piece).takeWhile (· ≠ ' ')

/-- A piece of a policy is a directive that a blocking rule must not add; its name is in any letter case. -/
def IsForbiddenDirective (piece : Text) : Prop :=
  (directiveName piece).map Char.toLower ∈ forbiddenDirectives

instance (piece : Text) : Decidable (IsForbiddenDirective piece) :=
  inferInstanceAs
    (Decidable ((directiveName piece).map Char.toLower ∈ forbiddenDirectives))

theorem forbiddenDirectives_all :
    (forbiddenDirectives.all fun name =>
      name ≠ [] &&
        name.all fun c => c.toNat < 0x80 && c ≠ ' ' && c ≠ ';') = true := by
  decide +kernel

/-- The name of a forbidden directive is a word of ASCII without the marks that structure policies. -/
theorem of_mem_forbiddenDirectives
    (member : word ∈ forbiddenDirectives) :
    word ≠ [] ∧
      (∀ c ∈ word, c.toNat < 0x80) ∧ ' ' ∉ word ∧ ';' ∉ word := by
  have sound := List.all_eq_true.mp forbiddenDirectives_all word member
  simp only [Bool.and_eq_true, decide_eq_true_eq, List.all_eq_true] at sound
  obtain ⟨notEmpty, letters⟩ := sound
  exact
    ⟨notEmpty, fun c isIn => (letters c isIn).1.1,
      fun isIn => (letters ' ' isIn).1.2 rfl,
      fun isIn => (letters ';' isIn).2 rfl⟩

/-! ## What the check sees -/

/-- Whether a text begins with a word in any letter case. -/
def beginsWord (word text : Text) : Bool :=
  (Text.afterSameLetters? word text).any endsWord

theorem beginsForbidden_eq
    (text : Text) :
    beginsForbidden text = forbiddenDirectives.any (beginsWord · text) := by
  unfold beginsForbidden
  congr 1
  funext name
  rw [beginsWord]
  cases Text.afterSameLetters? name text <;> rfl

/-- A word without some mark does not begin at the mark. -/
theorem beginsWord_cons_mark
    (isOne : Text.isMark mark = true)
    (notEmpty : word ≠ [])
    (noMark : mark ∉ word)
    (text : Text) :
    beginsWord word (mark :: text) = false := by
  cases word with
  | nil =>
      exact absurd rfl notEmpty
  | cons first others =>
      have different : Text.sameLetter first mark = false := by
        by_contra same
        rw [Bool.not_eq_false] at same
        rw [Text.eq_of_sameLetter_of_isMark isOne same] at noMark
        simp at noMark
      simp [beginsWord, Text.afterSameLetters?, different]

/-- Whether a text begins with a word without some mark is seen from what precedes the mark. -/
theorem beginsWord_takeWhile
    (isOne : Text.isMark mark = true)
    (noWordChar : Text.isWordChar mark = false)
    (noMark : mark ∉ word)
    (text : Text) :
    beginsWord word (text.takeWhile (· ≠ mark)) = beginsWord word text := by
  induction word generalizing text with
  | nil =>
      cases text with
      | nil =>
          rfl
      | cons c rest =>
          by_cases here : c = mark
          · simp [beginsWord, Text.afterSameLetters?, here, endsWord,
              noWordChar]
          · simp [beginsWord, Text.afterSameLetters?, here, endsWord]
  | cons first others inductionHypothesis =>
      cases text with
      | nil =>
          rfl
      | cons c rest =>
          by_cases here : c = mark
          · rw [here,
              beginsWord_cons_mark isOne (List.cons_ne_nil _ _) noMark]
            simp [beginsWord, Text.afterSameLetters?]
          · rw [List.mem_cons, not_or] at noMark
            have inOthers := inductionHypothesis noMark.2 rest
            rw [List.takeWhile_cons_of_pos (by simpa using here)]
            simp only [beginsWord, Text.afterSameLetters?] at inOthers ⊢
            split
            · exact inOthers
            · rfl

/-- A text that begins with letters of a word, with a space or nothing after them, begins with the word. -/
theorem beginsWord_of_takeWhile
    {text : Text}
    (ascii : ∀ c ∈ word, c.toNat < 0x80)
    (spelled : (text.takeWhile (· ≠ ' ')).map Char.toLower = word) :
    beginsWord word text = true := by
  subst spelled
  have begins :=
    Text.afterSameLetters?_append ascii (text.dropWhile (· ≠ ' '))
  rw [List.takeWhile_append_dropWhile] at begins
  rw [beginsWord, begins, Option.any_some]
  cases rest : text.dropWhile (· ≠ ' ') with
  | nil =>
      rfl
  | cons c others =>
      have isSpace : c = ' ' := by
        have stopped := List.head?_dropWhile_not (· ≠ ' ') text
        rw [rest] at stopped
        simpa using stopped
      rw [isSpace]
      rfl

theorem withoutSpace_takeWhile
    (text : Text) :
    withoutSpace (text.takeWhile (· ≠ ';')) =
      (withoutSpace text).takeWhile (· ≠ ';') := by
  match text with
  | [] =>
      rfl
  | ' ' :: rest =>
      simp [withoutSpace]
  | c :: rest =>
      by_cases isSpace : c = ' '
      · simp [isSpace, withoutSpace]
      · by_cases isSeparator : c = ';'
        · simp [isSeparator, withoutSpace]
        · simp [isSeparator, isSpace, withoutSpace]

/-- Dropping one space drops all spaces in front of a text if it does not begin with two. -/
theorem withoutSpace_eq_dropWhile
    {text : Text}
    (closeBy : ¬ [' ', ' '] <+: text) :
    withoutSpace text = text.dropWhile (· = ' ') := by
  match text with
  | [] =>
      rfl
  | [c] =>
      by_cases isSpace : c = ' ' <;> simp [isSpace, withoutSpace]
  | c :: next :: rest =>
      by_cases isSpace : c = ' '
      · have isOther : next ≠ ' ' := by
          rintro rfl
          exact closeBy ⟨rest, by simp [isSpace]⟩
        simp [isSpace, isOther, withoutSpace]
      · simp [isSpace, withoutSpace]

/-- The check of a policy goes piece by piece, and looks behind one space in front of a piece. -/
theorem isForbidden_eq
    (policy : Text) :
    isForbidden policy =
      (List.splitOn ';' policy).any
        fun piece => beginsForbidden (withoutSpace piece) := by
  rw [isForbidden, Text.splitOn_eq_map_tails, List.any_map]
  congr 1
  funext tail
  rw [Function.comp_apply, withoutSpace_takeWhile, beginsForbidden_eq,
    beginsForbidden_eq]
  rw [Bool.eq_iff_iff, List.any_eq_true, List.any_eq_true]
  refine exists_congr fun name => and_congr_right ?_
  intro member
  have noMark := (of_mem_forbiddenDirectives member).2.2.2
  rw [beginsWord_takeWhile (by decide) (by decide) noMark]

/-- The check finds the name of a forbidden directive exactly if at most one space is in front of it. -/
theorem beginsForbidden_withoutSpace_iff
    (forbidden : IsForbiddenDirective piece) :
    beginsForbidden (withoutSpace piece) = true ↔
      ¬ [' ', ' '] <+: piece := by
  rw [beginsForbidden_eq, List.any_eq_true]
  constructor
  · rintro ⟨name, member, begins⟩ ⟨rest, rfl⟩
    obtain ⟨notEmpty, _, noSpace, _⟩ := of_mem_forbiddenDirectives member
    change beginsWord name (' ' :: rest) = true at begins
    rw [beginsWord_cons_mark (by decide) notEmpty noSpace] at begins
    cases begins
  · intro closeBy
    obtain ⟨_, ascii, _⟩ := of_mem_forbiddenDirectives forbidden
    refine ⟨_, forbidden, beginsWord_of_takeWhile ascii ?_⟩
    rw [withoutSpace_eq_dropWhile closeBy, directiveName, Text.takeWhile_trim]

end Csp

/-! ## What rules inject -/

/-- A policy that a blocking rule is accepted with passes the check. -/
theorem RuleOptions.not_isForbidden_of_combinationFault?_eq_none
    {pattern : Text}
    {draft : OptionDraft}
    (noFault : combinationFault? true pattern draft = none) :
    ¬ Csp.isForbidden (draft.csp.getD []) = true := by
  intro forbidden
  unfold combinationFault? at noFault
  split at noFault
  · cases noFault
  · split at noFault
    · cases noFault
    · rw [if_pos ⟨rfl, forbidden⟩] at noFault
      cases noFault

/-- The only forbidden directives that a blocking rule may add to pages are those with two spaces in front of them. -/
theorem UrlRule.forbidden_directives_of_parse
    {strict : Bool}
    {text : Text}
    {rule : UrlRule}
    (parsed : Rule.parse strict text = .ok (.url rule))
    (blocks : rule.action = .block) :
    ∀ piece ∈ List.splitOn ';' rule.csp,
      Csp.IsForbiddenDirective piece → [' ', ' '] <+: piece := by
  obtain ⟨blocking, rest, pattern, options, _, _, noFault, rfl⟩ :=
    Rule.exists_options_of_parse parsed
  have isBlocking : blocking = true := by
    cases blocking with
    | true =>
        rfl
    | false =>
        cases blocks
  subst isBlocking
  obtain ⟨_, noCombinationFault⟩ := RuleOptions.fault?_eq_none_iff.mp noFault
  have accepted :=
    RuleOptions.not_isForbidden_of_combinationFault?_eq_none
      noCombinationFault
  intro piece member forbidden
  by_contra closeBy
  refine accepted ?_
  rw [Csp.isForbidden_eq, List.any_eq_true]
  exact
    ⟨piece, member,
      (Csp.beginsForbidden_withoutSpace_iff forbidden).mpr closeBy⟩

/-- A directive in capitals behind three spaces is let through. -/
theorem UrlRule.forbidden_directives_of_parse_indented :
    ∃ rule : UrlRule,
      Rule.parse true "||x^$csp=a b;   REPORT-TO c".toList =
          .ok (.url rule) ∧
        rule.action = .block ∧
        "   REPORT-TO c".toList ∈ List.splitOn ';' rule.csp ∧
        Csp.IsForbiddenDirective "   REPORT-TO c".toList ∧
        [' ', ' '] <+: "   REPORT-TO c".toList := by
  have parsed :
      Rule.parse true "||x^$csp=a b;   REPORT-TO c".toList =
        .ok (.url (UrlRule.ofOptions "||x^$csp=a b;   REPORT-TO c".toList
          ⟨true, "||x^".toList, ⟨0x2FFFFFF⟩, false, [], none, [],
            "a b;   REPORT-TO c".toList, [], []⟩)) := by
    decide +kernel
  have member :
      "   REPORT-TO c".toList ∈
        List.splitOn ';' "a b;   REPORT-TO c".toList := by
    decide +kernel
  have forbidden :
      Csp.IsForbiddenDirective "   REPORT-TO c".toList := by
    decide +kernel
  exact
    ⟨_, parsed, rfl, member, forbidden,
      forbidden_directives_of_parse parsed rfl _ member forbidden⟩

/-- A blocking rule may report to any address, if two spaces are in front of the directive that does so. -/
theorem UrlRule.exists_forbidden_directive :
    ∃ rule : UrlRule,
      Rule.parse false "||x^$csp=a;  report-uri b".toList =
          .ok (.url rule) ∧
        rule.action = .block ∧
        rule.csp ≠ [] ∧
        ∃ piece ∈ List.splitOn ';' rule.csp,
          Csp.IsForbiddenDirective piece := by
  have parsed :
      Rule.parse false "||x^$csp=a;  report-uri b".toList =
        .ok (.url (UrlRule.ofOptions "||x^$csp=a;  report-uri b".toList
          ⟨true, "||x^".toList, ⟨0x2FFFFFF⟩, false, [], none, [],
            "a;  report-uri b".toList, [], []⟩)) := by
    decide +kernel
  refine ⟨_, parsed, rfl, List.cons_ne_nil _ _, ?_⟩
  refine ⟨"  report-uri b".toList, ?_, ?_⟩
  · decide +kernel
  · decide +kernel

end AdFilter
