import AdFilter.Proofs.JsonValues

namespace AdFilter

/-!
# What is read of JSON texts

Whatever is read of a text is a value that can be written: the words of a text stand for well-formed values, and the values
that have been completed so far stay well formed with every further token.  So there are texts for the well-formed values
and for no others.
-/

namespace JsonToken

variable {c : Char} {word text : Text} {value : Json} {reading : Reading} {tokens : List JsonToken}

/-! ## Values without parts -/

/-- A number is kept as it is written, unless it is an integer that is not too long. -/
theorem eq_of_number_eq_leaf
    (reads : number word = .leaf value) :
    value = .decimal word ∨
      ∃ integer : Int,
        value = .integer integer ∧ integer.natAbs < 10 ^ Numeral.digitLimit := by
  unfold number at reads
  dsimp only at reads
  split at reads
  · cases reads
  · split at reads
    · split at reads
      · exact Or.inl (JsonToken.leaf.inj reads).symm
      · cases reads
    · split at reads
      · cases reads
      · rename_i magnitude isRead
        have short : magnitude < 10 ^ Numeral.digitLimit :=
          Numeral.lt_of_read_eq_ok (fun _ => List.mem_takeWhile_imp) isRead
        split at reads
        · refine Or.inr ⟨_, (JsonToken.leaf.inj reads).symm, ?_⟩
          split
          · exact short
          · rwa [Int.natAbs_neg]
        · cases reads

/-- A token stands for a well-formed value, if it stands for one. -/
def WellFormed : JsonToken → Prop
  | .leaf value => value.WellFormed
  | _ => True

theorem wellFormed_number
    (areChars : ∀ c ∈ word, isWordChar c = true)
    (isNumber : ofWord word = number word) :
    (number word).WellFormed := by
  cases reads : number word with
  | leaf value =>
      rcases eq_of_number_eq_leaf reads with rfl | ⟨integer, rfl, short⟩
      · exact Json.WellFormed.decimal areChars (isNumber.trans reads)
      · exact Json.WellFormed.integer short
  | _ =>
      trivial

/-- Whatever a word stands for is well formed. -/
theorem wellFormed_ofWord
    (areChars : ∀ c ∈ word, isWordChar c = true) :
    (ofWord word).WellFormed := by
  have shape := ofWord.eq_1 word
  rw [shape]
  split_ifs at shape ⊢
  · exact Json.WellFormed.null
  · exact Json.WellFormed.bool true
  · exact Json.WellFormed.bool false
  · exact Json.WellFormed.decimal areChars shape
  · exact wellFormed_number areChars shape

/-! ## Texts -/

/-- What has been read of a word has only characters of words. -/
def Reading.HasWordChars : Reading → Prop
  | .word read => ∀ c ∈ read, isWordChar c = true
  | _ => True

theorem wellFormed_ofWord_reverse
    {read : Text}
    (areChars : (Reading.word read).HasWordChars) :
    (ofWord read.reverse).WellFormed :=
  wellFormed_ofWord fun c member => areChars c (List.mem_reverse.mp member)

/-- No character between words and strings stands for a value, and a word begins with a character of words. -/
theorem wellFormed_of_atChar?
    (atChar : atChar? c = some (tokens, reading)) :
    (∀ token ∈ tokens, token.WellFormed) ∧ reading.HasWordChars := by
  unfold atChar? at atChar
  split at atChar
  iterate 7
    cases atChar
    exact ⟨by simp [WellFormed], trivial⟩
  split_ifs at atChar with blank isOne
  · cases atChar
    exact ⟨by simp, trivial⟩
  · cases atChar
    exact ⟨by simp, by simpa [Reading.HasWordChars] using isOne⟩

theorem hasWordChars_afterUnit
    (read : Text)
    (high : Option Nat)
    (unit : Nat) :
    (afterUnit read high unit).HasWordChars := by
  unfold afterUnit
  split_ifs
  · trivial
  · cases high <;> trivial
  · trivial

theorem wellFormed_of_mem_unreadable :
    ∀ token ∈ [unreadable], token.WellFormed := by
  simp [WellFormed]

/-- The tokens of a text are well formed, whatever has been read of it already. -/
theorem wellFormed_of_mem_scanFrom
    (areChars : reading.HasWordChars) :
    ∀ token ∈ scanFrom reading text, token.WellFormed := by
  -- Along the scan: only the end of a word and the end of a string give a token with a value.
  fun_induction scanFrom reading text with
  | case1 =>
      exact List.forall_mem_nil _
  | case2 read =>
      exact List.forall_mem_singleton.mpr (wellFormed_ofWord_reverse areChars)
  | case5 c rest tokens reading atChar inductionHypothesis =>
      obtain ⟨areWellFormed, laterChars⟩ := wellFormed_of_atChar? atChar
      exact
        List.forall_mem_append.mpr
          ⟨areWellFormed, inductionHypothesis laterChars⟩
  | case6 read c rest isOne inductionHypothesis =>
      exact
        inductionHypothesis (List.forall_mem_cons.mpr ⟨isOne, areChars⟩)
  | case7 read c rest noWord atChar =>
      exact
        List.forall_mem_cons.mpr
          ⟨wellFormed_ofWord_reverse areChars, wellFormed_of_mem_unreadable⟩
  | case8 read c rest noWord tokens reading atChar inductionHypothesis =>
      obtain ⟨areWellFormed, laterChars⟩ := wellFormed_of_atChar? atChar
      exact
        List.forall_mem_cons.mpr
          ⟨wellFormed_ofWord_reverse areChars,
            List.forall_mem_append.mpr
              ⟨areWellFormed, inductionHypothesis laterChars⟩⟩
  | case9 read high rest inductionHypothesis =>
      exact
        List.forall_mem_cons.mpr
          ⟨Json.WellFormed.string _, inductionHypothesis trivial⟩
  | case10 read high first second third fourth rest unit isUnit
      inductionHypothesis =>
      exact inductionHypothesis (hasWordChars_afterUnit read high unit)
  | case12 read high c rest noUnit escaped isEscape inductionHypothesis =>
      exact inductionHypothesis trivial
  | case15 read high c rest noQuote noUnit noEscape plain
      inductionHypothesis =>
      exact inductionHypothesis trivial
  -- In the cases that are left the text cannot be read any further.
  | _ =>
      exact wellFormed_of_mem_unreadable

end JsonToken

namespace Json

variable {text : Text} {value : Json} {token : JsonToken} {tokens : List JsonToken} {progress next : Progress}
  {fields : List (Text × Json)} {around : List Opened}

/-! ## Values with parts -/

/-- The parts of an array or object that is still open are well formed so far. -/
def Opened.WellFormed : Opened → Prop
  | .array items => ∀ item ∈ items, item.WellFormed
  | .object fields _ => ∀ field ∈ fields, field.2.WellFormed

/-- Everything that has been read so far is well formed. -/
def Progress.WellFormed : Progress → Prop
  | .value around => ∀ opened ∈ around, opened.WellFormed
  | .firstItem around => ∀ opened ∈ around, opened.WellFormed
  | .firstField around => ∀ opened ∈ around, opened.WellFormed
  | .field fields around =>
      (∀ field ∈ fields, field.2.WellFormed) ∧
        ∀ opened ∈ around, opened.WellFormed
  | .colon fields _ around =>
      (∀ field ∈ fields, field.2.WellFormed) ∧
        ∀ opened ∈ around, opened.WellFormed
  | .complete value around =>
      value.WellFormed ∧ ∀ opened ∈ around, opened.WellFormed

/-- Of fields with the same name the last one is kept, so the names of an object are different. -/
theorem wellFormed_ofFields
    (parts : ∀ field ∈ fields, field.2.WellFormed) :
    (ofFields fields).WellFormed :=
  .object (TextMap.nodup_keys_ofList fields) fun field member =>
    parts field (TextMap.mem_of_mem_entries_ofList member)

/-- The fields of a well-formed object are well formed. -/
theorem WellFormed.of_field?
    {name : Text}
    {found : Json}
    (wellFormed : value.WellFormed)
    (isField : value.field? name = some found) :
    found.WellFormed := by
  cases wellFormed with
  | object _ parts =>
      obtain ⟨earlier, later, shape, _⟩ := List.lookup_eq_some_iff.mp isField
      exact parts (name, found) (by simp [shape])
  | _ =>
      cases isField

theorem wellFormed_of_beginValue
    (aroundWellFormed : ∀ opened ∈ around, opened.WellFormed)
    (tokenWellFormed : token.WellFormed)
    (begins : Progress.beginValue around token = .ok next) :
    next.WellFormed := by
  cases token with
  | leaf value =>
      cases begins
      exact ⟨tokenWellFormed, aroundWellFormed⟩
  | openArray =>
      cases begins
      exact aroundWellFormed
  | openObject =>
      cases begins
      exact aroundWellFormed
  | _ =>
      cases begins

theorem wellFormed_of_beginField
    (parts : ∀ field ∈ fields, field.2.WellFormed)
    (aroundWellFormed : ∀ opened ∈ around, opened.WellFormed)
    (begins : Progress.beginField fields around token = .ok next) :
    next.WellFormed := by
  unfold Progress.beginField at begins
  split at begins
  · cases begins
    exact ⟨parts, aroundWellFormed⟩
  · cases begins

/-- A value that is complete is one more item or field of what is open around it. -/
theorem wellFormed_of_step_complete
    {opened : Opened}
    (valueWellFormed : value.WellFormed)
    (openedWellFormed : opened.WellFormed)
    (aroundWellFormed : ∀ opened ∈ around, opened.WellFormed)
    (steps : Progress.step (.complete value (opened :: around)) token = .ok next) :
    next.WellFormed := by
  cases opened with
  | array items =>
      have itemsWellFormed : ∀ item ∈ value :: items, item.WellFormed :=
        List.forall_mem_cons.mpr ⟨valueWellFormed, openedWellFormed⟩
      cases token with
      | comma =>
          cases steps
          exact List.forall_mem_cons.mpr ⟨itemsWellFormed, aroundWellFormed⟩
      | closeArray =>
          cases steps
          refine ⟨.array fun item member => ?_, aroundWellFormed⟩
          exact itemsWellFormed item (List.mem_reverse.mp member)
      | _ =>
          cases steps
  | object fields name =>
      have fieldsWellFormed :
          ∀ field ∈ (name, value) :: fields, field.2.WellFormed :=
        List.forall_mem_cons.mpr ⟨valueWellFormed, openedWellFormed⟩
      cases token with
      | comma =>
          cases steps
          exact ⟨fieldsWellFormed, aroundWellFormed⟩
      | closeObject =>
          cases steps
          refine
            ⟨wellFormed_ofFields fun field member => ?_, aroundWellFormed⟩
          exact fieldsWellFormed field (List.mem_reverse.mp member)
      | _ =>
          cases steps

/-- One more token leaves everything well formed. -/
theorem Progress.WellFormed.step
    (wellFormed : progress.WellFormed)
    (tokenWellFormed : token.WellFormed)
    (steps : progress.step token = .ok next) :
    next.WellFormed := by
  cases progress with
  | value around =>
      exact wellFormed_of_beginValue wellFormed tokenWellFormed steps
  | firstItem around =>
      have noItem : (Opened.array []).WellFormed := List.forall_mem_nil _
      have openedWellFormed :=
        List.forall_mem_cons.mpr ⟨noItem, wellFormed⟩
      cases token with
      | closeArray =>
          cases steps
          exact ⟨.array noItem, wellFormed⟩
      | _ =>
          exact wellFormed_of_beginValue openedWellFormed tokenWellFormed steps
  | firstField around =>
      cases token with
      | closeObject =>
          cases steps
          exact ⟨.object List.nodup_nil (List.forall_mem_nil _), wellFormed⟩
      | leaf name =>
          exact wellFormed_of_beginField (List.forall_mem_nil _) wellFormed steps
      | _ =>
          cases steps
  | field fields around =>
      exact wellFormed_of_beginField wellFormed.1 wellFormed.2 steps
  | colon fields name around =>
      cases token with
      | colon =>
          cases steps
          exact List.forall_mem_cons.mpr wellFormed
      | _ =>
          cases steps
  | complete value around =>
      obtain ⟨valueWellFormed, aroundWellFormed⟩ := wellFormed
      cases around with
      | nil =>
          cases token <;> cases steps
      | cons opened around =>
          obtain ⟨openedWellFormed, othersWellFormed⟩ :=
            List.forall_mem_cons.mp aroundWellFormed
          exact
            wellFormed_of_step_complete valueWellFormed openedWellFormed
              othersWellFormed steps

/-- Further tokens leave everything well formed. -/
theorem Progress.WellFormed.foldlM
    (wellFormed : progress.WellFormed)
    (areWellFormed : ∀ token ∈ tokens, token.WellFormed)
    (run : tokens.foldlM Progress.step progress = .ok next) :
    next.WellFormed := by
  induction tokens generalizing progress with
  | nil =>
      cases run
      exact wellFormed
  | cons token others inductionHypothesis =>
      obtain ⟨tokenWellFormed, othersWellFormed⟩ :=
        List.forall_mem_cons.mp areWellFormed
      rw [List.foldlM_cons] at run
      cases steps : progress.step token with
      | error failure =>
          rw [steps] at run
          cases run
      | ok middle =>
          rw [steps] at run
          exact
            inductionHypothesis (wellFormed.step tokenWellFormed steps)
              othersWellFormed run

/-- Whatever is read of a text is well formed. -/
theorem wellFormed_of_parse_eq_ok
    (parsed : parse text = .ok value) :
    value.WellFormed := by
  have tokensWellFormed :
      ∀ token ∈ JsonToken.scan text, token.WellFormed :=
    JsonToken.wellFormed_of_mem_scanFrom trivial
  have startWellFormed : (Progress.value []).WellFormed :=
    List.forall_mem_nil _
  unfold parse ofTokens at parsed
  split at parsed
  · rename_i isRead
    cases parsed
    exact (startWellFormed.foldlM tokensWellFormed isRead).1
  · cases parsed
  · cases parsed

/-- The values that texts stand for are the well-formed ones. -/
theorem exists_parse_eq_ok_iff :
    (∃ text, parse text = .ok value) ↔ value.WellFormed := by
  constructor
  · rintro ⟨text, parsed⟩
    exact wellFormed_of_parse_eq_ok parsed
  · intro wellFormed
    exact ⟨_, (parse_written wellFormed .singleLine).2⟩

end Json

end AdFilter
