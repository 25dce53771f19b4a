import AdFilter.Proofs.TextForms

namespace AdFilter

/-!
# The form of rules on contents

A text is that of a rule on contents if it spells parts: domains, a mark between number signs and a body.  Domains and
bodies may have number signs in them too, so that a text may spell several parts.  It is read as those with the shortest
domains, and a text that spells none is left to the rules on addresses.
-/

namespace ContentParts

variable {text body : Text} {parts other : ContentParts} {mark : ContentMark} {c : Char}

/-- How parts are written. -/
def written (parts : ContentParts) : Text :=
  parts.domains ++ '#' :: (parts.mark.written ++ '#' :: parts.body)

/-- Parts that can be read: some characters cannot stand in domains, and a body is not empty and on a single line. -/
structure WellFormed (parts : ContentParts) : Prop where
  domains : ∀ c ∈ parts.domains, c ∉ ['/', '|', '@', '"', '!']
  bodyNotEmpty : parts.body ≠ []
  bodyOnLine : '\n' ∉ parts.body

/-- Well-formed parts are written as a text. -/
structure Spell (parts : ContentParts) (text : Text) : Prop where
  wellFormed : parts.WellFormed
  shape : text = parts.written

/-- Of all parts that a text spells, these have the shortest domains. -/
structure SpellFirst (parts : ContentParts) (text : Text) : Prop where
  spell : parts.Spell text
  shortest :
    ∀ other : ContentParts,
      other.Spell text → parts.domains.length ≤ other.domains.length

/-! ## Marks and bodies -/

theorem isExcludedFromDomains_eq_false_iff :
    isExcludedFromDomains c = false ↔ c ∉ ['/', '|', '@', '"', '!'] := by
  simp [isExcludedFromDomains, and_assoc]

theorem isBody_iff :
    isBody body = true ↔ body ≠ [] ∧ '\n' ∉ body := by
  simp [isBody]

/-- After the first number sign a text has room for one mark only. -/
theorem markAndBody?_eq_some_iff :
    markAndBody? text = some (mark, body) ↔
      text = mark.written ++ '#' :: body ∧ body ≠ [] ∧ '\n' ∉ body := by
  unfold markAndBody?
  dsimp only
  rw [← isBody_iff, Option.filter_eq_some_iff]
  refine and_congr_left fun _ => ?_
  constructor
  · intro read
    split at read <;> cases read <;> rfl
  · rintro rfl
    cases mark <;> rfl

/-! ## What a text spells -/

theorem not_spell_nil :
    ¬ parts.Spell [] := by
  rintro ⟨_, shape⟩
  simp [written] at shape

/-- A text spells parts from its first character on, which is a number sign then, or its first character belongs to domains. -/
theorem spell_cons_iff :
    parts.Spell (c :: text) ↔
      (parts.domains = [] ∧ c = '#' ∧
          markAndBody? text = some (parts.mark, parts.body)) ∨
        ∃ shorter : ContentParts,
          parts = { shorter with domains := c :: shorter.domains } ∧
            isExcludedFromDomains c = false ∧ shorter.Spell text := by
  rw [markAndBody?_eq_some_iff, isExcludedFromDomains_eq_false_iff]
  constructor
  · rintro ⟨⟨allowed, notEmpty, onLine⟩, shape⟩
    obtain ⟨domains, mark, body⟩ := parts
    cases domains with
    | nil =>
        obtain ⟨rfl, rfl⟩ := List.cons.inj shape
        exact Or.inl ⟨rfl, rfl, rfl, notEmpty, onLine⟩
    | cons first others =>
        obtain ⟨rfl, rfl⟩ := List.cons.inj shape
        obtain ⟨firstAllowed, othersAllowed⟩ := List.forall_mem_cons.mp allowed
        exact
          Or.inr
            ⟨⟨others, mark, body⟩, rfl, firstAllowed,
              ⟨othersAllowed, notEmpty, onLine⟩, rfl⟩
  · rintro (⟨noDomains, rfl, rfl, notEmpty, onLine⟩ |
      ⟨shorter, rfl, firstAllowed, ⟨othersAllowed, notEmpty, onLine⟩, rfl⟩)
    · refine ⟨⟨?_, notEmpty, onLine⟩, ?_⟩
      · simp [noDomains]
      · simp [written, noDomains]
    · exact
        ⟨⟨List.forall_mem_cons.mpr ⟨firstAllowed, othersAllowed⟩,
            notEmpty, onLine⟩,
          rfl⟩

/-- Where no mark and body can be read after the first character, it belongs to the domains. -/
theorem spell_cons_iff_of_none
    (noneHere : (if c = '#' then markAndBody? text else none) = none) :
    parts.Spell (c :: text) ↔
      ∃ shorter : ContentParts,
        parts = { shorter with domains := c :: shorter.domains } ∧
          isExcludedFromDomains c = false ∧ shorter.Spell text := by
  rw [spell_cons_iff]
  refine or_iff_right ?_
  rintro ⟨_, rfl, read⟩
  rw [if_pos rfl, read] at noneHere
  cases noneHere

theorem spellFirst_of_ofText?
    (found : ofText? text = some parts) :
    parts.SpellFirst text := by
  induction text generalizing parts with
  | nil =>
      cases found
  | cons c rest inductionHypothesis =>
      rw [ofText?] at found
      split at found
      · rename_i mark body read
        obtain ⟨rfl, readRest⟩ := Option.ite_none_right_eq_some.mp read
        cases found
        exact
          ⟨spell_cons_iff.mpr (Or.inl ⟨rfl, rfl, readRest⟩),
            fun _ _ => Nat.zero_le _⟩
      · rename_i noneHere
        split at found
        · cases found
        · rename_i notExcluded
          obtain ⟨shorter, foundRest, rfl⟩ := Option.map_eq_some_iff.mp found
          have first := inductionHypothesis foundRest
          refine ⟨(spell_cons_iff_of_none noneHere).mpr ?_, ?_⟩
          · exact
              ⟨shorter, rfl, Bool.eq_false_iff.mpr notExcluded, first.spell⟩
          · intro other spell
            obtain ⟨otherShorter, rfl, _, spellRest⟩ :=
              (spell_cons_iff_of_none noneHere).mp spell
            exact Nat.succ_le_succ (first.shortest otherShorter spellRest)

theorem not_spell_of_ofText?_eq_none
    (notFound : ofText? text = none) :
    ¬ parts.Spell text := by
  induction text generalizing parts with
  | nil =>
      exact not_spell_nil
  | cons c rest inductionHypothesis =>
      rw [ofText?] at notFound
      split at notFound
      · cases notFound
      · rename_i noneHere
        intro spell
        obtain ⟨shorter, rfl, allowed, spellRest⟩ :=
          (spell_cons_iff_of_none noneHere).mp spell
        rw [allowed, if_neg Bool.false_ne_true,
          Option.map_eq_none_iff] at notFound
        exact inductionHypothesis notFound spellRest

/-- A text spells no two parts whose domains are as short as possible. -/
theorem SpellFirst.unique
    (first : parts.SpellFirst text)
    (firstToo : other.SpellFirst text) :
    parts = other := by
  have sameLength :=
    Nat.le_antisymm (first.shortest other firstToo.spell)
      (firstToo.shortest parts first.spell)
  obtain ⟨sameDomains, sameRest⟩ :=
    List.append_inj (first.spell.shape.symm.trans firstToo.spell.shape)
      sameLength
  have read (parts : ContentParts) (wellFormed : parts.WellFormed) :
      markAndBody? (parts.mark.written ++ '#' :: parts.body) =
        some (parts.mark, parts.body) :=
    markAndBody?_eq_some_iff.mpr
      ⟨rfl, wellFormed.bodyNotEmpty, wellFormed.bodyOnLine⟩
  have sameRead := read parts first.spell.wellFormed
  rw [List.tail_eq_of_cons_eq sameRest,
    read other firstToo.spell.wellFormed] at sameRead
  obtain ⟨_, _, _⟩ := parts
  obtain ⟨_, _, _⟩ := other
  cases sameDomains
  cases sameRead
  rfl

/-- A text is read as the parts with the shortest domains that it spells. -/
theorem ofText?_eq_some_iff :
    ofText? text = some parts ↔ parts.SpellFirst text := by
  constructor
  · exact spellFirst_of_ofText?
  · intro first
    cases found : ofText? text with
    | none =>
        exact absurd first.spell (not_spell_of_ofText?_eq_none found)
    | some other =>
        rw [(spellFirst_of_ofText? found).unique first]

/-- Domains without a number sign are as short as possible. -/
theorem spellFirst_written
    (wellFormed : parts.WellFormed)
    (noSign : '#' ∉ parts.domains) :
    parts.SpellFirst parts.written := by
  refine ⟨⟨wellFormed, rfl⟩, ?_⟩
  intro other spell
  have shape := spell.shape
  rw [written, written, List.append_eq_append_iff] at shape
  rcases shape with ⟨more, longer, _⟩ | ⟨more, shorter, rest⟩
  · rw [longer, List.length_append]
    exact Nat.le_add_right _ _
  · cases more with
    | nil =>
        simp [shorter]
    | cons first others =>
        obtain ⟨rfl, _⟩ := List.cons.inj rest
        simp [shorter] at noSign

end ContentParts

namespace Rule

variable {strict : Bool} {text : Text}

/--
A text that is neither empty nor a comment is read as a rule on contents exactly if it spells parts, and then as the one
that the parts with the shortest domains make up.  A text that spells none is read as a rule on addresses.  Parts without
a number sign in their domains are read back from the text that they are written as.
-/
theorem parse_content_iff_spell
    (notEmpty : text ≠ [])
    (noComment : text.head? ≠ some '!') :
    ((∃ rule, parse strict text = .ok (.content rule)) ↔
        ∃ parts : ContentParts, parts.Spell text) ∧
      (∀ rule, parse strict text = .ok (.content rule) →
        ∃ mark,
          ContentParts.SpellFirst ⟨rule.domainSource, mark, rule.body⟩ text ∧
            rule =
              ContentRule.ofParts text
                ⟨rule.domainSource, mark, rule.body⟩) ∧
      ((∀ parts : ContentParts, ¬ parts.Spell text) →
        parse strict text = (UrlRule.parse strict text).map .url) ∧
      ∀ parts : ContentParts, parts.WellFormed → '#' ∉ parts.domains →
        ∃ rule,
          parse strict parts.written = .ok (.content rule) ∧
            rule.domainSource = parts.domains ∧ rule.body = parts.body := by
  refine ⟨⟨?_, ?_⟩, ?_, ?_, ?_⟩
  · rintro ⟨rule, parsed⟩
    obtain ⟨parts, found, _⟩ := exists_parts_of_parse parsed
    exact ⟨parts, (ContentParts.spellFirst_of_ofText? found).spell⟩
  · rintro ⟨parts, spell⟩
    cases found : ContentParts.ofText? text with
    | none =>
        exact absurd spell (ContentParts.not_spell_of_ofText?_eq_none found)
    | some first =>
        exact ⟨_, parse_of_content found⟩
  · intro rule parsed
    obtain ⟨parts, found, rfl⟩ := exists_parts_of_parse parsed
    exact ⟨parts.mark, ContentParts.spellFirst_of_ofText? found, rfl⟩
  · intro noSpell
    have noContent : ContentParts.ofText? text = none := by
      refine Option.eq_none_iff_forall_ne_some.mpr ?_
      intro parts found
      exact noSpell parts (ContentParts.spellFirst_of_ofText? found).spell
    have candidate : UrlRule.IsCandidate text :=
      ⟨notEmpty, noComment, noContent⟩
    rw [parse_of_address candidate, UrlRule.parse_of_address candidate]
  · intro parts wellFormed noSign
    have found :=
      ContentParts.ofText?_eq_some_iff.mpr
        (ContentParts.spellFirst_written wellFormed noSign)
    exact ⟨_, parse_of_content found, rfl, rfl⟩

/-- The shortest domains may hold a number sign, a body may as well, and without a body nothing is spelled. -/
theorem parse_content_iff_spell_signs :
    (∃ rule,
      parse true "a#b##c##d".toList = .ok (.content rule) ∧
        ∃ mark,
          ContentParts.SpellFirst ⟨rule.domainSource, mark, rule.body⟩
            "a#b##c##d".toList) ∧
      (∃ rule,
        parse true "a.b,~c#$#d#@#e".toList = .ok (.content rule) ∧
          rule.domainSource = "a.b,~c".toList ∧
          rule.body = "d#@#e".toList) ∧
      parse true "a##\n".toList =
        (UrlRule.parse true "a##\n".toList).map .url := by
  have spell :
      ContentParts.Spell ⟨"a#b##c".toList, .hide, ['d']⟩
        "a#b##c##d".toList :=
    ⟨⟨by simp, by decide, by decide⟩, rfl⟩
  obtain ⟨reads, first, _⟩ :=
    @parse_content_iff_spell true "a#b##c##d".toList nofun nofun
  obtain ⟨rule, parsed⟩ := reads.mpr ⟨_, spell⟩
  obtain ⟨mark, isFirst, _⟩ := first rule parsed
  obtain ⟨_, _, left, readBack⟩ :=
    @parse_content_iff_spell true "a##\n".toList nofun nofun
  refine ⟨⟨rule, parsed, mark, isFirst⟩, ?_, left ?_⟩
  · exact
      readBack ⟨"a.b,~c".toList, .runSnippet, "d#@#e".toList⟩
        ⟨by simp, by decide, by decide⟩ (by decide)
  · exact fun _ => ContentParts.not_spell_of_ofText?_eq_none (by decide)

end Rule

end AdFilter
