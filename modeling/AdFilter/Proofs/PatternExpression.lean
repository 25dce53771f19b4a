import AdFilter.Pattern.Basic
import AdFilter.Proofs.LetterCase
import AdFilter.Proofs.PatternShape

namespace AdFilter

/-!
# The expression of a pattern

The source of a shape is read back as an expression.  Scanner and parser read the source of each part on its own,
whatever follows it, so that the expression of a shape is the sequence of the expressions of its parts.  In
particular every pattern compiles.
-/

namespace Pattern

/-- The set of the characters that are separators. -/
def separatorSet : CharSet :=
  .union (.range (0x00, 0x24))
    (.union (.range (0x26, 0x2C))
      (.union (.single '/')
        (.union (.range (0x3A, 0x40))
          (.union (.range (0x5B, 0x5E))
            (.union (.single '`')
              (.range (0x7B, 0x7F)))))))

/-- The characters that a scheme is made of. -/
def schemeSet : CharSet :=
  .union .word (.single '-')

/-- All characters but the end of a line. -/
def lineSet : CharSet :=
  .complement (.single '\n')

/-- All characters but a slash. -/
def notSlashSet : CharSet :=
  .complement (.single '/')

/-- The tokens in the source of a character of a pattern's body. -/
def charTokens (c : Char) : List RegexpToken :=
  if c = '*' then
    [.one lineSet, .star]
  else if c = '^' then
    [.openGroup, .one separatorSet, .bar, .anchor .lastLineEnd, .closeGroup]
  else
    [.one (.single c)]

/-- The tokens in the source of an anchor. -/
def Anchor.tokens : Anchor → List RegexpToken
  | .nowhere => []
  | .addressStart => [.anchor .textStart]
  | .domainLabel =>
      [.anchor .textStart, .one schemeSet, .plus, .one (.single ':'),
        .one (.single '/'), .plus, .openGroup, .one notSlashSet, .plus,
        .one (.single '.'), .closeGroup, .optional]

/-- The tokens in the source of the end of a shape. -/
def endTokens (reachesEnd : Bool) : List RegexpToken :=
  if reachesEnd then [.anchor .lastLineEnd] else []

/-! ## Scanning -/

/-- The tokens of a first part of a source come before those of the rest, whatever the rest is. -/
def ScansAs (source : Text) (tokens : List RegexpToken) : Prop :=
  ∀ rest,
    RegexpToken.scanFrom .parts (source ++ rest) =
      (RegexpToken.scanFrom .parts rest).map (tokens ++ ·)

/-- Two parts are scanned one after the other. -/
theorem ScansAs.append
    {first second : Text}
    {firstTokens secondTokens : List RegexpToken}
    (firstScans : ScansAs first firstTokens)
    (secondScans : ScansAs second secondTokens) :
    ScansAs (first ++ second) (firstTokens ++ secondTokens) := by
  intro rest
  rw [List.append_assoc, firstScans, secondScans, Option.map_map]
  simp [Function.comp_def]

theorem ScansAs.scan
    {source : Text}
    {tokens : List RegexpToken}
    (scans : ScansAs source tokens) :
    RegexpToken.scan source = some tokens := by
  have whole := scans []
  simpa [RegexpToken.scan, RegexpToken.scanFrom] using whole

theorem scansAs_nil :
    ScansAs [] [] := by
  intro rest
  simp

theorem scansAs_wildcardSource :
    ScansAs wildcardSource [.one lineSet, .star] := by
  intro rest
  have scanned :
      RegexpToken.scanFrom .parts (wildcardSource ++ rest) =
        ((RegexpToken.scanFrom .parts rest).map (.star :: ·)).map
          (.one lineSet :: ·) :=
    rfl
  rw [scanned, Option.map_map]
  rfl

theorem scansAs_separatorSource :
    ScansAs separatorSource
      [.openGroup, .one separatorSet, .bar, .anchor .lastLineEnd,
        .closeGroup] := by
  intro rest
  have scanned :
      RegexpToken.scanFrom .parts (separatorSource ++ rest) =
        (((((RegexpToken.scanFrom .parts rest).map
          (.closeGroup :: ·)).map
          (.anchor .lastLineEnd :: ·)).map
          (.bar :: ·)).map
          (.one separatorSet :: ·)).map
          (.openGroup :: ·) :=
    rfl
  rw [scanned]
  cases RegexpToken.scanFrom .parts rest <;> rfl

theorem scansAs_plain
    {c : Char}
    (plain : needsNoEscape c = true) :
    ScansAs [c] [.one (.single c)] := by
  intro rest
  have noOpening := ne_of_needsNoEscape plain '(' (by decide)
  have noBracket := ne_of_needsNoEscape plain '[' (by decide)
  have noBackslash := ne_of_needsNoEscape plain '\\' (by decide)
  have noBrace := ne_of_needsNoEscape plain '\x7b' (by decide)
  have token : RegexpToken.ofChar c = .one (.single c) := by
    unfold RegexpToken.ofChar
    split <;> first | rfl | (exact absurd plain (by decide))
  rw [List.singleton_append, RegexpToken.scanFrom, token]
  · rfl
  all_goals simp_all

theorem placeEscape?_of_not_isAlphanum
    {c : Char}
    (notAlphanum : c.isAlphanum = false) :
    RegexpToken.placeEscape? c = none := by
  unfold RegexpToken.placeEscape?
  split <;> first | rfl | (exact absurd notAlphanum (by decide))

theorem octalEscape?_of_not_isAlphanum
    {c : Char}
    (notAlphanum : c.isAlphanum = false)
    (rest : Text) :
    RegexpToken.octalEscape? (c :: rest) = none := by
  have notOctal : Text.isOctalDigit c = false := by
    by_cases ascii : c.toNat < 0x80
    · revert notAlphanum
      exact ascii_of_forall_point
        (fun c => c.isAlphanum = false → Text.isOctalDigit c = false)
        (by decide) ascii
    · have beyond : ¬ c ≤ '7' := by
        rw [char_le_iff]
        change ¬ c.toNat ≤ 55
        omega
      simp [Text.isOctalDigit, beyond]
  have noDigits : RegexpToken.octalDigits (c :: rest) = [] := by
    simp [RegexpToken.octalDigits, notOctal]
  simp [RegexpToken.octalEscape?, noDigits]

/-- A character that is no letter and no digit stands for itself after a backslash. -/
theorem escape?_of_not_isAlphanum
    {c : Char}
    (notAlphanum : c.isAlphanum = false)
    (rest : Text) :
    RegexpToken.escape? (c :: rest) = some (.one (.single c), 1) := by
  have noHex : RegexpToken.hexEscape? (c :: rest) = none := by
    unfold RegexpToken.hexEscape?
    split <;> simp_all
  have noClass : RegexpToken.classEscape? c = none := by
    unfold RegexpToken.classEscape?
    split <;> first | rfl | (exact absurd notAlphanum (by decide))
  have noControl : RegexpToken.controlEscape? c = none := by
    unfold RegexpToken.controlEscape?
    split <;> first | rfl | (exact absurd notAlphanum (by decide))
  have sign : RegexpToken.signEscape? c = some (.point c.toNat) := by
    simp [RegexpToken.signEscape?, noClass, noControl, notAlphanum]
  have itself : (RegexpToken.SetMember.point c.toNat).toSet = .single c := by
    have valid : c.toNat.isValidChar := c.valid
    simp [RegexpToken.SetMember.toSet, CharSet.ofCodePoint, valid]
  simp [RegexpToken.escape?, RegexpToken.commonEscape?, noHex, sign, itself,
    placeEscape?_of_not_isAlphanum notAlphanum,
    octalEscape?_of_not_isAlphanum notAlphanum]

/-- An escaped character is a token of its own. -/
theorem scansAs_escaped
    {c : Char}
    (notPlain : needsNoEscape c = false) :
    ScansAs ['\\', c] [.one (.single c)] := by
  intro rest
  have notAlphanum : c.isAlphanum = false := by
    simp_all [needsNoEscape]
  have escape := escape?_of_not_isAlphanum notAlphanum rest
  rw [List.cons_append, List.singleton_append, RegexpToken.scanFrom, escape]
  rfl

theorem scansAs_charSource
    (c : Char) :
    ScansAs (charSource c) (charTokens c) := by
  by_cases isWildcard : c = '*'
  · simpa [charSource, charTokens, isWildcard] using scansAs_wildcardSource
  · by_cases isSeparator : c = '^'
    · simpa [charSource, charTokens, isSeparator] using
        scansAs_separatorSource
    · by_cases plain : needsNoEscape c = true
      · simpa [charSource, charTokens, isWildcard, isSeparator, plain] using
          scansAs_plain plain
      · simpa [charSource, charTokens, isWildcard, isSeparator, plain] using
          scansAs_escaped (by simpa using plain)

theorem scansAs_body
    (body : Text) :
    ScansAs (body.flatMap charSource) (body.flatMap charTokens) := by
  induction body with
  | nil =>
      exact scansAs_nil
  | cons c rest inductionHypothesis =>
      exact (scansAs_charSource c).append inductionHypothesis

theorem Anchor.scansAs_source
    (anchor : Anchor) :
    ScansAs anchor.source anchor.tokens := by
  intro rest
  cases anchor with
  | nowhere =>
      exact scansAs_nil rest
  | addressStart =>
      rfl
  | domainLabel =>
      have scanned :
          RegexpToken.scanFrom .parts (domainLabelSource ++ rest) =
            ((((((((((((RegexpToken.scanFrom .parts rest).map
              (.optional :: ·)).map
              (.closeGroup :: ·)).map
              (.one (.single '.') :: ·)).map
              (.plus :: ·)).map
              (.one notSlashSet :: ·)).map
              (.openGroup :: ·)).map
              (.plus :: ·)).map
              (.one (.single '/') :: ·)).map
              (.one (.single ':') :: ·)).map
              (.plus :: ·)).map
              (.one schemeSet :: ·)).map
              (.anchor .textStart :: ·) :=
        rfl
      rw [source, scanned]
      cases RegexpToken.scanFrom .parts rest <;> rfl

theorem scansAs_endSource
    (reachesEnd : Bool) :
    ScansAs (endSource reachesEnd) (endTokens reachesEnd) := by
  intro rest
  cases reachesEnd with
  | false =>
      exact scansAs_nil rest
  | true =>
      rfl

/-- The tokens of a shape. -/
def Shape.tokens (shape : Shape) : List RegexpToken :=
  shape.anchor.tokens ++ shape.body.flatMap charTokens ++
    endTokens shape.reachesEnd

/-- The source of a shape is read as its tokens. -/
theorem Shape.scan_source
    (shape : Shape) :
    RegexpToken.scan shape.source = some shape.tokens :=
  ((shape.anchor.scansAs_source.append (scansAs_body shape.body)).append
    (scansAs_endSource shape.reachesEnd)).scan

/-! ## Parsing -/

/-- The item that the parser makes of a character of a pattern's body. -/
def charItem (c : Char) : Regexp.Item :=
  if c = '*' then
    ⟨(Regexp.one lineSet).repeated 0 none, .repeated (.one lineSet) 0 none⟩
  else if c = '^' then
    ⟨.either (.one separatorSet) .lastLineEnd, .repeatable⟩
  else
    ⟨.one (.single c), .repeatable⟩

/-- The expression for the labels that may stand before an anchored one. -/
def labelsExpression : Regexp :=
  .seq ((Regexp.one notSlashSet).repeated 1 none) (.one (.single '.'))

/-- The items that the parser makes of an anchor, in the order of their tokens. -/
def Anchor.items : Anchor → List Regexp.Item
  | .nowhere => []
  | .addressStart => [⟨.textStart, .anchor⟩]
  | .domainLabel =>
      [⟨.textStart, .anchor⟩,
        ⟨(Regexp.one schemeSet).repeated 1 none,
          .repeated (.one schemeSet) 1 none⟩,
        ⟨.one (.single ':'), .repeatable⟩,
        ⟨(Regexp.one (.single '/')).repeated 1 none,
          .repeated (.one (.single '/')) 1 none⟩,
        ⟨labelsExpression.repeated 0 (some 1),
          .repeated labelsExpression 0 (some 1)⟩]

/-- The items that the parser makes of the end of a shape. -/
def endItems (reachesEnd : Bool) : List Regexp.Item :=
  if reachesEnd then [⟨.lastLineEnd, .anchor⟩] else []

/-- The items of a shape. -/
def Shape.items (shape : Shape) : List Regexp.Item :=
  shape.anchor.items ++ shape.body.map charItem ++ endItems shape.reachesEnd

/-- The expression of a shape. -/
def Shape.expression (shape : Shape) : Regexp :=
  Regexp.sequence (shape.items.map Regexp.Item.expression)

/-- Tokens add items to the group that is being read, whatever has been read before. -/
def ParsesAs
    (tokens : List RegexpToken)
    (items : List Regexp.Item) : Prop :=
  ∀ group : Regexp.OpenGroup,
    Regexp.Progress.steps ⟨group, []⟩ tokens =
      some ⟨⟨group.alternatives, items.reverse ++ group.items⟩, []⟩

theorem parsesAs_nil :
    ParsesAs [] [] := by
  intro group
  rfl

/-- Tokens after other ones add their items after the others. -/
theorem ParsesAs.append
    {first second : List RegexpToken}
    {firstItems secondItems : List Regexp.Item}
    (firstParses : ParsesAs first firstItems)
    (secondParses : ParsesAs second secondItems) :
    ParsesAs (first ++ second) (firstItems ++ secondItems) := by
  intro group
  have firstStep := firstParses group
  unfold Regexp.Progress.steps at firstStep ⊢
  rw [List.foldlM_append, firstStep]
  exact (secondParses _).trans (by simp)

theorem parsesAs_charTokens
    (c : Char) :
    ParsesAs (charTokens c) [charItem c] := by
  intro group
  by_cases isWildcard : c = '*'
  · subst isWildcard
    rfl
  · by_cases isSeparator : c = '^'
    · subst isSeparator
      rfl
    · simp only [charTokens, charItem, isWildcard, isSeparator, if_false]
      rfl

theorem parsesAs_body
    (body : Text) :
    ParsesAs (body.flatMap charTokens) (body.map charItem) := by
  induction body with
  | nil =>
      exact parsesAs_nil
  | cons c rest inductionHypothesis =>
      exact (parsesAs_charTokens c).append inductionHypothesis

theorem Anchor.parsesAs_tokens
    (anchor : Anchor) :
    ParsesAs anchor.tokens anchor.items := by
  intro group
  cases anchor <;> rfl

theorem parsesAs_endTokens
    (reachesEnd : Bool) :
    ParsesAs (endTokens reachesEnd) (endItems reachesEnd) := by
  intro group
  cases reachesEnd <;> rfl

theorem Shape.parsesAs_tokens
    (shape : Shape) :
    ParsesAs shape.tokens shape.items :=
  (shape.anchor.parsesAs_tokens.append (parsesAs_body shape.body)).append
    (parsesAs_endTokens shape.reachesEnd)

/-- The source of a shape is read as its expression. -/
theorem Shape.parse?_source
    (shape : Shape) :
    Regexp.parse? shape.source = some shape.expression := by
  have parsed :
      Regexp.Progress.steps ⟨.start, []⟩ shape.tokens =
        some ⟨⟨[], shape.items.reverse⟩, []⟩ := by
    simpa [Regexp.OpenGroup.start] using shape.parsesAs_tokens .start
  have current :
      Regexp.OpenGroup.current ⟨[], shape.items.reverse⟩ =
        shape.expression := by
    rw [Regexp.OpenGroup.current, List.reverse_reverse]
    rfl
  rw [Regexp.parse?, shape.scan_source]
  simp [parsed, Regexp.Progress.finish?, Regexp.OpenGroup.expression,
    current, Regexp.choice]

/-- Every pattern compiles, to the expression of its shape. -/
theorem parse?_source
    (text : Text) :
    Regexp.parse? (source text) =
      some (Shape.ofText text).collapsed.expression := by
  rw [source_eq, Shape.parse?_source]

/-! ## Compiled patterns -/

/-- A pattern that is not looked for directly is compiled to the expression of its shape. -/
theorem ofText_of_not_literal
    {text : Text}
    (notLiteral : isLiteralText text = false)
    (matchCase : Bool) :
    ofText text matchCase =
      ⟨text, matchCase, some (Shape.ofText text).collapsed.expression⟩ := by
  rw [ofText, notLiteral, if_neg Bool.false_ne_true, parse?_source]

theorem isLiteral_ofText
    (text : Text)
    (matchCase : Bool) :
    (ofText text matchCase).isLiteral = isLiteralText text := by
  cases shape : isLiteralText text with
  | true =>
      rw [ofText, if_pos shape]
      rfl
  | false =>
      rw [ofText_of_not_literal shape]
      rfl

/--
No source fails to compile, whatever the characters of the pattern are.  So a pattern is looked for directly only if its
text allows that, and otherwise it has the expression that its source is read as.
-/
theorem ofText_compiles
    (text : Text)
    (matchCase : Bool) :
    ∃ expression,
      Regexp.parse? (source text) = some expression ∧
        (ofText text matchCase).isLiteral = isLiteralText text ∧
        (ofText text matchCase).compiled =
          (if isLiteralText text then none else some expression) ∧
        (ofText text matchCase).regexpSource =
          if isLiteralText text then text else source text := by
  refine ⟨_, parse?_source text, isLiteral_ofText text matchCase, ?_, ?_⟩
  · cases shape : isLiteralText text with
    | true =>
        rw [ofText, if_pos shape, if_pos rfl]
        rfl
    | false =>
        rw [ofText_of_not_literal shape, if_neg Bool.false_ne_true]
  · have sameText : (ofText text matchCase).text = text := by
      rw [ofText]
      split <;> rfl
    rw [regexpSource, isLiteral_ofText, sameText]

/-- Characters that could open sets or groups, repeat something or begin an escape are escaped themselves. -/
example :
    (ofText "|\\**[(?+\x7bé^|".toList false).regexpSource =
        "^\\\\.*\\[\\(\\?\\+\\\x7b\\é".toList ++ separatorSource ∧
      (ofText "|\\**[(?+\x7bé^|".toList false).compiled.isSome = true := by
  decide +kernel

end Pattern

end AdFilter
