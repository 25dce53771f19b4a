import AdFilter.Configuration
import AdFilter.Proofs.ReadJson

namespace AdFilter

/-!
# Configurations saved and loaded

A configuration is saved as an object with two fields, in which reading finds them by the names that they were written under.
A size of the cache with too many digits breaks the saving off, and what the file holds then is no configuration; nor is
there any other file for such a size.
-/

namespace Configuration

variable {config : Configuration} {file : Option Text} {size : Int} {number : Nat}

/-! ## Files that hold a configuration -/

/-- The object that a configuration is saved as. -/
def settings (config : Configuration) : List (Text × Json) :=
  [(policyField, .string config.policy.name),
    (cacheSizeField, config.cacheSize)]

theorem ofName?_name
    (policy : OptionPolicy) :
    OptionPolicy.ofName? policy.name = some policy := by
  cases policy <;> rfl

/-- Both fields are found under the names that they have in the object. -/
theorem ofJson_settings
    (config : Configuration) :
    ofJson (.object config.settings) = .ok config := by
  have policyFound :
      (Json.object config.settings).field? policyField =
        some (.string config.policy.name) :=
    rfl
  have sizeFound :
      (Json.object config.settings).field? cacheSizeField =
        some config.cacheSize :=
    rfl
  rw [ofJson, policyFound, sizeFound]
  dsimp only [Option.getD_some, OptionPolicy.ofJson?]
  rw [ofName?_name]

theorem wellFormed_settings
    (sizeWellFormed : config.cacheSize.WellFormed) :
    (Json.object config.settings).WellFormed := by
  have different : (config.settings.map Prod.fst).Nodup := by
    change [policyField, cacheSizeField].Nodup
    decide
  apply Json.WellFormed.object different
  intro field member
  simp only [settings, List.mem_cons, List.not_mem_nil, or_false] at member
  rcases member with rfl | rfl
  · exact .string _
  · exact sizeWellFormed

/-- With any size that can be written, a configuration is saved whole and loaded as it was saved. -/
theorem load_save_of_wellFormed
    (sizeWellFormed : config.cacheSize.WellFormed) :
    config.save.failure? = none ∧
      load (some config.save.text) = .ok config := by
  obtain ⟨whole, parsed⟩ :=
    Json.parse_written (wellFormed_settings sizeWellFormed) (.indented 2)
  refine ⟨whole, ?_⟩
  change ofFile (Json.written _ (.object config.settings)).text = _
  rw [ofFile, parsed]
  exact ofJson_settings config

theorem wellFormed_cacheSize_of_ofJson
    {settings : Json}
    (wellFormed : settings.WellFormed)
    (made : ofJson settings = .ok config) :
    config.cacheSize.WellFormed := by
  unfold ofJson at made
  dsimp only at made
  split at made
  · cases made
    cases isField : settings.field? cacheSizeField with
    | none =>
        exact .null
    | some value =>
        exact wellFormed.of_field? isField
  · cases made

/-- The size of the cache is one of the values that have been read, or there is none. -/
theorem wellFormed_cacheSize_of_load
    (loaded : load file = .ok config) :
    config.cacheSize.WellFormed := by
  cases file with
  | none =>
      cases loaded
      exact .null
  | some content =>
      rw [load] at loaded
      unfold ofFile at loaded
      split at loaded
      · cases loaded
      · cases loaded
      · rename_i fields parsed
        have objectWellFormed : (Json.object fields).WellFormed :=
          Json.exists_parse_eq_ok_iff.mp ⟨content, parsed⟩
        exact wellFormed_cacheSize_of_ofJson objectWellFormed loaded
      · cases loaded

/-- The configurations that files hold are those whose size can be written. -/
theorem exists_load_eq_ok_iff :
    (∃ file, load file = .ok config) ↔ config.cacheSize.WellFormed := by
  constructor
  · rintro ⟨file, loaded⟩
    exact wellFormed_cacheSize_of_load loaded
  · intro sizeWellFormed
    exact ⟨_, (load_save_of_wellFormed sizeWellFormed).2⟩

/-! ## Sizes with too many digits -/

/-- What stands before the size of the cache in a saved configuration. -/
def textBeforeSize (policy : OptionPolicy) : Text :=
  "\x7b\n  \"unknown_options\": \"".toList ++ policy.name ++
    "\",\n  \"cache_size\": ".toList

/-- The saving of a configuration is broken off before a size that has too many digits. -/
theorem saveTo_of_long
    (isSize : config.cacheSize = .integer size)
    (long : 10 ^ Numeral.digitLimit ≤ size.natAbs)
    (previous : Option Text) :
    config.saveTo previous =
      ⟨textBeforeSize config.policy, some .tooLongToWrite⟩ := by
  have refused : Numeral.write size = .error .tooLongToWrite :=
    Numeral.write_of_long long
  obtain ⟨policy, _⟩ := config
  cases isSize
  simp only [saveTo, save, Json.written, Json.pieces, Json.fieldPieces, refused]
  cases policy <;> rfl

theorem scans_textBeforeSize
    (policy : OptionPolicy) :
    JsonToken.Scans (textBeforeSize policy)
      [.openObject, .leaf (.string policyField), .colon,
        .leaf (.string policy.name), .comma,
        .leaf (.string cacheSizeField), .colon] := by
  intro rest
  cases policy <;> rfl

/-- What is left of a configuration whose saving has been broken off is not loaded. -/
theorem load_textBeforeSize
    (policy : OptionPolicy) :
    load (some (textBeforeSize policy)) = .error .notJson := by
  have scanned := scans_textBeforeSize policy []
  rw [List.append_nil] at scanned
  rw [load, ofFile, Json.parse, scanned]
  rfl

/-- A file with a size that has too many digits is not loaded, even if nothing is missing in it. -/
theorem load_of_long
    (long : 10 ^ Numeral.digitLimit ≤ number)
    (policy : OptionPolicy) :
    load
        (some
          (textBeforeSize policy ++ Nat.toDigits 10 number ++
            ['\n', '\x7d'])) =
      .error (.integer (.tooLongToRead (Nat.toDigits 10 number).length)) := by
  have digits :=
    JsonToken.scansAsWord_of_long long (JsonToken.withoutMinus_toDigits number)
  have noWord :
      ∀ c ∈ ['\n', '\x7d'].head?, JsonToken.isWordChar c = false := by
    rintro c ⟨⟩
    rfl
  have scanned := (scans_textBeforeSize policy).append_word digits _ noWord
  rw [load, ofFile, Json.parse, scanned]
  rfl

/-! ## Saving and loading -/

/--
A configuration whose cache has no size, or an integer for its size, is saved whole and loaded as it was saved exactly if the
integer has no more digits than the limit, whatever the file held before.
-/
theorem load_saveTo_iff
    (hasSize :
      config.cacheSize = .null ∨ ∃ size, config.cacheSize = .integer size)
    (previous : Option Text) :
    ((config.saveTo previous).failure? = none ∧
        load (some (config.saveTo previous).text) = .ok config) ↔
      ∀ size, config.cacheSize = .integer size →
        size.natAbs < 10 ^ Numeral.digitLimit := by
  constructor
  · rintro ⟨_, loaded⟩ size isSize
    have sizeWellFormed : config.cacheSize.WellFormed :=
      exists_load_eq_ok_iff.mp ⟨_, loaded⟩
    rw [isSize] at sizeWellFormed
    cases sizeWellFormed with
    | integer short =>
        exact short
  · intro short
    apply load_save_of_wellFormed
    rcases hasSize with noSize | ⟨size, isSize⟩
    · rw [noSize]
      exact .null
    · rw [isSize]
      exact .integer (short size isSize)

/-- A configuration with the least size that can be written replaces a file that is no JSON. -/
theorem load_saveTo_least :
    (saveTo ⟨.reject, .integer (1 - 10 ^ 4300)⟩
          (some "no configuration".toList)).failure? = none ∧
      load
          (some
            (saveTo ⟨.reject, .integer (1 - 10 ^ 4300)⟩
              (some "no configuration".toList)).text) =
        .ok ⟨.reject, .integer (1 - 10 ^ 4300)⟩ := by
  apply (load_saveTo_iff (Or.inr ⟨_, rfl⟩) _).mpr
  intro size isSize
  rw [← Json.integer.inj isSize]
  have positive : 0 < 10 ^ Numeral.digitLimit := Nat.pow_pos (by decide)
  have asInteger :
      ((10 ^ Numeral.digitLimit : Nat) : Int) = 10 ^ Numeral.digitLimit :=
    Nat.cast_pow 10 Numeral.digitLimit
  have short :
      (1 - (10 : Int) ^ Numeral.digitLimit).natAbs <
        10 ^ Numeral.digitLimit := by
    omega
  exact short

/--
With the least positive size that is too long, saving breaks off and leaves a file that is no JSON, the whole file would be
refused for its digits, and no other file is loaded as that configuration either.
-/
theorem not_load_saveTo_of_too_long :
    (saveTo ⟨.reject, .integer (10 ^ 4300)⟩ none).failure? =
        some .tooLongToWrite ∧
      load (some (saveTo ⟨.reject, .integer (10 ^ 4300)⟩ none).text) =
        .error .notJson ∧
      load
          (some
            (textBeforeSize .reject ++ Nat.toDigits 10 (10 ^ 4300) ++
              ['\n', '\x7d'])) =
        .error (.integer (.tooLongToRead 4301)) ∧
      ∀ file, load file ≠ .ok ⟨.reject, .integer (10 ^ 4300)⟩ := by
  have natAbs_pow (limit : Nat) : ((10 : Int) ^ limit).natAbs = 10 ^ limit :=
    Int.natAbs_pow 10 limit
  have long :
      10 ^ Numeral.digitLimit ≤ ((10 : Int) ^ Numeral.digitLimit).natAbs :=
    (natAbs_pow _).ge
  have broken :
      saveTo ⟨.reject, .integer (10 ^ 4300)⟩ none =
        ⟨textBeforeSize .reject, some .tooLongToWrite⟩ :=
    saveTo_of_long rfl long none
  have refused := load_of_long (Nat.le_refl (10 ^ Numeral.digitLimit)) .reject
  rw [Text.length_toDigits_pow, Numeral.digitLimit] at refused
  refine ⟨?_, ?_, refused, ?_⟩
  · rw [broken]
  · rw [broken]
    exact load_textBeforeSize .reject
  · intro file loaded
    cases exists_load_eq_ok_iff.mp ⟨file, loaded⟩ with
    | integer short =>
        exact absurd short (Nat.not_lt.mpr long)

end Configuration

end AdFilter
