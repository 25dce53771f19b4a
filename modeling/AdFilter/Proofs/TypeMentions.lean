import AdFilter.Proofs.UrlRuleForm

namespace AdFilter

/-!
# The types that options name

The mask of a rule on addresses is put together option by option, and the first option that names a type decides what
it starts from.  What comes out is said here bit by bit and without masks: the last option that names a resource
decides about it, special types need an option of their own, and those of policies and headers come from the options
that inject them.
-/

/-- A content type that an option names, and whether the option has a tilde in front. -/
structure TypeMention where
  contentType : ContentType
  negated : Bool
  deriving Repr, DecidableEq

namespace TypeMention

/-- The content type that the key of an option names, without a tilde in front. -/
def ofOption? (option : Text) : Option TypeMention :=
  let markedKey := (Setting.keyAndValue option).1
  (ContentType.ofName? (OptionClause.withoutTilde markedKey)).map
    fun contentType => ⟨contentType, markedKey.head? = some '~'⟩

/-- The content types that the options of a rule name, in order. -/
def ofText (text : Text) : List TypeMention :=
  (OptionClause.split (RuleOptions.blockingAndRest text).2).2.filterMap
    ofOption?

/-- Whether an option injects a policy or a header. -/
def injects (mention : TypeMention) : Bool :=
  !mention.negated &&
    (mention.contentType = .csp || mention.contentType = .header)

/-- The options that name a type without injecting anything. -/
def selecting (mentions : List TypeMention) : List TypeMention :=
  mentions.filter fun mention => !mention.injects

/-- The last of some options that names the type with a bit. -/
def lastNaming? (mentions : List TypeMention) (position : Nat) : Option TypeMention :=
  (mentions.filter fun mention => mention.contentType.bit = position).getLast?

/--
Options leave a resource in: the last one that names it has no tilde, or none names it and the first one has a tilde, if
there is one at all.
-/
def Keep (mentions : List TypeMention) (position : Nat) : Prop :=
  match lastNaming? mentions position with
  | some last => last.negated = false
  | none => ∀ first, mentions.head? = some first → first.negated = true

/-- The options of a rule determine its mask bit by bit. -/
structure Determine (mentions : List TypeMention) (mask : TypeMask) : Prop where
  resource :
    ∀ position < TypeMask.resourceBits,
      mask.HasBit position ↔ Keep (selecting mentions) position
  special :
    ∀ contentType ∈
        [ContentType.popup, .document, .genericblock, .elemhide, .generichide],
      mask.HasBit contentType.bit ↔ ⟨contentType, false⟩ ∈ mentions
  csp : mask.HasBit ContentType.csp.bit ↔ ⟨.csp, false⟩ ∈ mentions
  header : mask.HasBit ContentType.header.bit ↔ ⟨.header, false⟩ ∈ mentions
  beyond : ∀ position ≥ ContentType.bitCount, ¬ mask.HasBit position

variable {mentions : List TypeMention} {mention : TypeMention} {contentType : ContentType} {position : Nat}

/-! ## One more option -/

theorem lastNaming?_concat
    (mentions : List TypeMention)
    (mention : TypeMention)
    (position : Nat) :
    lastNaming? (mentions ++ [mention]) position =
      if mention.contentType.bit = position then
        some mention
      else
        lastNaming? mentions position := by
  by_cases names : mention.contentType.bit = position <;>
    simp [lastNaming?, List.filter_append, names]

/-- An option after others says nothing of what it does not name. -/
theorem keep_concat_of_bit_ne
    {negated : Bool}
    (otherBit : contentType.bit ≠ position)
    (notFirst : mentions ≠ []) :
    Keep (mentions ++ [⟨contentType, negated⟩]) position ↔
      Keep mentions position := by
  rw [Keep, Keep, lastNaming?_concat, if_neg otherBit,
    List.head?_append_of_ne_nil mentions notFirst]

/-- An option with a tilde takes out the resource that it names, and changes nothing else. -/
theorem keep_concat_negated_iff :
    Keep (mentions ++ [⟨contentType, true⟩]) position ↔
      Keep mentions position ∧ position ≠ contentType.bit := by
  by_cases names : contentType.bit = position
  · simp [Keep, lastNaming?_concat, names]
  · have otherBit : position ≠ contentType.bit :=
      Ne.symm names
    by_cases first : mentions = []
    · simp [first, Keep, lastNaming?, names, otherBit]
    · rw [keep_concat_of_bit_ne names first]
      simp [otherBit]

/-- An option without tilde adds the resource that it names, and takes out all others if it is the first. -/
theorem keep_concat_plain_iff :
    Keep (mentions ++ [⟨contentType, false⟩]) position ↔
      (mentions ≠ [] ∧ Keep mentions position) ∨
        position = contentType.bit := by
  by_cases names : contentType.bit = position
  · simp [Keep, lastNaming?_concat, names]
  · have otherBit : position ≠ contentType.bit :=
      Ne.symm names
    by_cases first : mentions = []
    · simp [first, Keep, lastNaming?, names, otherBit]
    · rw [keep_concat_of_bit_ne names first]
      simp [first, otherBit]

theorem selecting_append_of_injects
    {injections : List TypeMention}
    (inject : ∀ mention ∈ injections, mention.injects = true)
    (mentions : List TypeMention) :
    selecting (mentions ++ injections) = selecting mentions := by
  have nothing :
      (injections.filter fun mention => !mention.injects) = [] := by
    rw [List.filter_eq_nil_iff]
    intro mention member
    simp [inject mention member]
  rw [selecting, List.filter_append, nothing, List.append_nil, selecting]

theorem selecting_concat_of_not_injects
    (noInjection : mention.injects = false) :
    selecting (mentions ++ [mention]) = selecting mentions ++ [mention] := by
  simp [selecting, noInjection]

end TypeMention

namespace OptionDraft

open TypeMention

/-- A draft says of types what options say. -/
structure Reflects (mentions : List TypeMention) (draft : OptionDraft) : Prop where
  unnamed : draft.contentTypes = none ↔ selecting mentions = []
  resource :
    ∀ position < TypeMask.resourceBits,
      (draft.contentTypes.getD .resources).HasBit position ↔
        Keep (selecting mentions) position
  special :
    ∀ contentType : ContentType,
      TypeMask.resourceBits ≤ contentType.bit →
      contentType ≠ .csp →
      contentType ≠ .header →
      ((draft.contentTypes.getD .resources).HasBit contentType.bit ↔
        ⟨contentType, false⟩ ∈ mentions)
  csp : draft.csp.isSome = true ↔ ⟨.csp, false⟩ ∈ mentions
  header : draft.header.isSome = true ↔ ⟨.header, false⟩ ∈ mentions

variable {mentions : List TypeMention} {draft : OptionDraft} {contentType : ContentType}

theorem reflects_empty :
    Reflects [] .empty where
  unnamed := iff_of_true rfl rfl
  resource := by
    intro position isResource
    refine iff_of_true (TypeMask.hasBit_resources_iff.mpr isResource) ?_
    exact nofun
  special := by
    intro contentType isSpecial _ _
    refine iff_of_false ?_ List.not_mem_nil
    intro bit
    exact absurd (TypeMask.hasBit_resources_iff.mp bit) (Nat.not_lt.mpr isSpecial)
  csp := by
    simp [empty]
  header := by
    simp [empty]

/-- An option with a tilde excludes its type. -/
theorem Reflects.exceptFor
    (reflects : Reflects mentions draft) :
    Reflects (mentions ++ [⟨contentType, true⟩])
      (draft.set (.exceptFor contentType)) := by
  have selected :
      selecting (mentions ++ [⟨contentType, true⟩]) =
        selecting mentions ++ [⟨contentType, true⟩] :=
    selecting_concat_of_not_injects rfl
  have bit_iff (position : Nat) :
      ((draft.set (.exceptFor contentType)).contentTypes.getD
          .resources).HasBit position ↔
        (draft.contentTypes.getD .resources).HasBit position ∧
          (position = contentType.bit → ¬ position < TypeMask.resourceBits) := by
    simp [set]
  refine ⟨?_, ?_, ?_, ?_, ?_⟩
  · rw [selected]
    exact iff_of_false nofun (by simp)
  · intro position isResource
    rw [bit_iff, selected, keep_concat_negated_iff,
      reflects.resource position isResource]
    simp [isResource]
  · intro named isSpecial notCsp notHeader
    rw [bit_iff, reflects.special named isSpecial notCsp notHeader]
    simp [Nat.not_lt.mpr isSpecial]
  · exact reflects.csp.trans (by simp)
  · exact reflects.header.trans (by simp)

/-- An option without tilde adds its type, unless the type injects something. -/
theorem Reflects.applyTo
    (reflects : Reflects mentions draft)
    (notCsp : contentType ≠ .csp)
    (notHeader : contentType ≠ .header) :
    Reflects (mentions ++ [⟨contentType, false⟩])
      (draft.set (.applyTo contentType)) := by
  have selected :
      selecting (mentions ++ [⟨contentType, false⟩]) =
        selecting mentions ++ [⟨contentType, false⟩] :=
    selecting_concat_of_not_injects (by simp [injects, notCsp, notHeader])
  have bit_iff (position : Nat) :
      ((draft.set (.applyTo contentType)).contentTypes.getD
          .resources).HasBit position ↔
        (draft.contentTypes.getD .empty).HasBit position ∨
          position = contentType.bit := by
    simp [set]
  have base_iff (position : Nat) :
      (draft.contentTypes.getD .empty).HasBit position ↔
        draft.contentTypes ≠ none ∧
          (draft.contentTypes.getD .resources).HasBit position := by
    cases draft.contentTypes <;> simp
  refine ⟨?_, ?_, ?_, ?_, ?_⟩
  · rw [selected]
    exact iff_of_false nofun (by simp)
  · intro position isResource
    rw [bit_iff, base_iff, selected, keep_concat_plain_iff,
      reflects.resource position isResource, Ne, reflects.unnamed]
  · intro named isSpecial namedNotCsp namedNotHeader
    have noResource :
        ¬ TypeMask.resources.HasBit named.bit := by
      simpa using isSpecial
    have base_iff_special :
        (draft.contentTypes.getD .empty).HasBit named.bit ↔
          (draft.contentTypes.getD .resources).HasBit named.bit := by
      cases draft.contentTypes <;> simp [noResource]
    rw [bit_iff, base_iff_special,
      reflects.special named isSpecial namedNotCsp namedNotHeader,
      ContentType.bit_injective.eq_iff]
    simp
  · refine reflects.csp.trans ?_
    simp [Ne.symm notCsp]
  · refine reflects.header.trans ?_
    simp [Ne.symm notHeader]

/-- Policies and headers leave the other types as they are. -/
theorem Reflects.append_of_injects
    {later : OptionDraft}
    {injections : List TypeMention}
    (reflects : Reflects mentions draft)
    (sameTypes : later.contentTypes = draft.contentTypes)
    (inject : ∀ mention ∈ injections, mention.injects = true)
    (csp :
      later.csp.isSome = true ↔ ⟨.csp, false⟩ ∈ mentions ++ injections)
    (header :
      later.header.isSome = true ↔
        ⟨.header, false⟩ ∈ mentions ++ injections) :
    Reflects (mentions ++ injections) later := by
  have selected := selecting_append_of_injects inject mentions
  refine ⟨?_, ?_, ?_, csp, header⟩
  · rw [sameTypes, selected]
    exact reflects.unnamed
  · rw [sameTypes, selected]
    exact reflects.resource
  · intro named isSpecial notCsp notHeader
    have notInjected : ⟨named, false⟩ ∉ injections := by
      intro member
      simpa [injects, notCsp, notHeader] using inject _ member
    rw [sameTypes, reflects.special named isSpecial notCsp notHeader]
    simp [notInjected]

/-- An option that names a type says of it what its setting does. -/
theorem Reflects.set_ofContentType
    (reflects : Reflects mentions draft)
    (mention : TypeMention)
    (value : Text) :
    Reflects (mentions ++ [mention])
      (draft.set
        (Setting.ofContentType mention.negated mention.contentType value)) := by
  obtain ⟨contentType, negated⟩ := mention
  cases negated with
  | true =>
      exact reflects.exceptFor
  | false =>
      by_cases isCsp : contentType = .csp
      · subst isCsp
        refine reflects.append_of_injects rfl (by simp [injects]) ?_ ?_
        · simp [Setting.ofContentType, set]
        · exact reflects.header.trans (by simp)
      · by_cases isHeader : contentType = .header
        · subst isHeader
          refine reflects.append_of_injects rfl (by simp [injects]) ?_ ?_
          · exact reflects.csp.trans (by simp)
          · simp [Setting.ofContentType, set]
        · have setting :
              Setting.ofContentType false contentType value =
                .applyTo contentType := by
            cases contentType <;> first | rfl | contradiction
          rw [setting]
          exact reflects.applyTo isCsp isHeader

/-- An option that names no type leaves all types as they are. -/
theorem Reflects.set_ofOtherKey
    (reflects : Reflects mentions draft)
    (negated : Bool)
    (key value : Text) :
    Reflects mentions (draft.set (Setting.ofOtherKey negated key value)) := by
  have unchanged :
      (draft.set (Setting.ofOtherKey negated key value)).contentTypes =
          draft.contentTypes ∧
        (draft.set (Setting.ofOtherKey negated key value)).csp = draft.csp ∧
        (draft.set (Setting.ofOtherKey negated key value)).header =
          draft.header := by
    unfold Setting.ofOtherKey
    repeat' split
    all_goals exact ⟨rfl, rfl, rfl⟩
  obtain ⟨sameTypes, sameCsp, sameHeader⟩ := unchanged
  rw [← List.append_nil mentions]
  refine reflects.append_of_injects sameTypes (by simp) ?_ ?_
  · rw [sameCsp, List.append_nil]
    exact reflects.csp
  · rw [sameHeader, List.append_nil]
    exact reflects.header

/-- One more option says of types what its setting does. -/
theorem Reflects.set_ofOption
    (reflects : Reflects mentions draft)
    (option : Text) :
    Reflects (mentions ++ (TypeMention.ofOption? option).toList)
      (draft.set (Setting.ofOption option)) := by
  unfold Setting.ofOption TypeMention.ofOption?
  dsimp only
  split
  · rename_i contentType named
    rw [named]
    exact reflects.set_ofContentType _ _
  · rename_i unnamed
    rw [unnamed]
    exact (List.append_nil mentions).symm ▸ reflects.set_ofOtherKey _ _ _

/-- What options make up says of types what the options say, however many there are and in whatever order. -/
theorem reflects_ofSettings
    (options : List Text) :
    Reflects (options.filterMap TypeMention.ofOption?)
      (ofSettings (options.map Setting.ofOption)) := by
  -- From the last option backwards: it is applied to what the options before it make up.
  induction options using List.reverseRecOn with
  | nil =>
      exact reflects_empty
  | append_singleton earlier last inductionHypothesis =>
      have more := inductionHypothesis.set_ofOption last
      have mentioned :
          (earlier ++ [last]).filterMap TypeMention.ofOption? =
            earlier.filterMap TypeMention.ofOption? ++
              (TypeMention.ofOption? last).toList := by
        rw [List.filterMap_append]
        cases found : TypeMention.ofOption? last <;> simp [found]
      rw [mentioned, List.map_append, List.map_singleton, ofSettings_concat]
      exact more

/-- What options say of types determines the mask that they make up. -/
theorem Reflects.determine
    {blocking : Bool}
    (reflects : Reflects mentions draft)
    (sound : Sound blocking draft) :
    Determine mentions draft.mask where
  resource := by
    intro position isResource
    have notCsp : position ≠ ContentType.csp.bit :=
      (isNamedBit_of_lt isResource).2.1
    have notHeader : position ≠ ContentType.header.bit :=
      (isNamedBit_of_lt isResource).2.2
    rw [hasBit_mask_iff, ← reflects.resource position isResource]
    simp [notCsp, notHeader]
  special := by
    intro contentType isSpecial
    have beyondResources : TypeMask.resourceBits ≤ contentType.bit := by
      revert contentType
      decide
    have noInjection : contentType ≠ .csp ∧ contentType ≠ .header := by
      revert contentType
      decide
    rw [hasBit_mask_iff,
      ← reflects.special contentType beyondResources noInjection.1
        noInjection.2,
      ContentType.bit_injective.eq_iff, ContentType.bit_injective.eq_iff]
    simp [noInjection]
  csp := sound.hasBit_csp_iff.trans reflects.csp
  header := sound.hasBit_header_iff.trans reflects.header
  beyond := by
    intro position isBeyond bit
    have large : 2 ^ ContentType.bitCount ≤ 2 ^ position :=
      Nat.pow_le_pow_right (by decide) isBeyond
    rw [TypeMask.HasBit,
      Nat.testBit_lt_two_pow (sound.mask_bits_lt.trans_le large)] at bit
    cases bit

end OptionDraft

/-- A special type other than that of policies is in a mask only if an option without tilde names it. -/
theorem TypeMention.Determine.exists_of_hasBit
    {mentions : List TypeMention}
    {mask : TypeMask}
    {position : Nat}
    (determined : Determine mentions mask)
    (isSpecial : TypeMask.resourceBits ≤ position)
    (notCsp : position ≠ ContentType.csp.bit)
    (bit : mask.HasBit position) :
    ∃ contentType : ContentType,
      contentType.bit = position ∧ ⟨contentType, false⟩ ∈ mentions := by
  have below : position < ContentType.bitCount := by
    by_contra isBeyond
    exact determined.beyond position (Nat.not_lt.mp isBeyond) bit
  by_cases isHeader : position = ContentType.header.bit
  · subst isHeader
    exact ⟨.header, rfl, determined.header.mp bit⟩
  · have listed :
        ∃ contentType ∈
            [ContentType.popup, .document, .genericblock, .elemhide,
              .generichide],
          contentType.bit = position := by
      simp only [TypeMask.resourceBits, ContentType.bitCount,
        ContentType.bit] at isSpecial notCsp below isHeader
      simp [ContentType.bit]
      omega
    obtain ⟨contentType, member, rfl⟩ := listed
    exact
      ⟨contentType, rfl, (determined.special contentType member).mp bit⟩

namespace UrlRule

variable {strict : Bool} {text : Text} {rule : UrlRule}

/--
The options of a rule on addresses determine its mask bit by bit.  For types without a resource the rule matches no
request unless an option without tilde names one of them other than that of policies.
-/
theorem contentTypes_of_parse
    (parsed : Rule.parse strict text = .ok (.url rule)) :
    TypeMention.Determine (TypeMention.ofText text) rule.contentTypes ∧
      ∀ request types sitekey,
        (∀ position, types.HasBit position →
          TypeMask.resourceBits ≤ position) →
        rule.matchesRequest request types sitekey = true →
        ∃ contentType : ContentType,
          contentType ≠ .csp ∧
            types.HasBit contentType.bit ∧
            ⟨contentType, false⟩ ∈ TypeMention.ofText text := by
  obtain ⟨blocking, rest, pattern, options, start, cut, noFault, rfl⟩ :=
    Rule.exists_options_of_parse parsed
  have mentioned :
      TypeMention.ofText text = options.filterMap TypeMention.ofOption? := by
    rw [TypeMention.ofText, start, cut]
  have determined :=
    (OptionDraft.reflects_ofSettings options).determine
      (RuleOptions.sound_of_fault?_eq_none noFault)
  rw [mentioned]
  refine ⟨determined, ?_⟩
  intro request types sitekey noResource matched
  obtain ⟨applies, _⟩ := Bool.and_eq_true_iff.mp matched
  obtain ⟨position, inTypes, bit⟩ := TypeMask.overlaps_iff.mp applies
  obtain ⟨inRequest, notContext⟩ := TypeMask.hasBit_diff_iff.mp inTypes
  have notCsp : position ≠ ContentType.csp.bit :=
    fun same => notContext (TypeMask.hasBit_ofType_iff.mpr same)
  obtain ⟨contentType, rfl, named⟩ :=
    determined.exists_of_hasBit (noResource position inRequest) notCsp bit
  exact ⟨contentType, fun same => notCsp (congrArg _ same), inRequest, named⟩

/-- An exception with negated, repeated, special and injecting types matches for a special type that an option names. -/
theorem contentTypes_of_parse_mixed :
    ∃ rule : UrlRule,
      Rule.parse true "@@||ab^$~script,csp,elemhide,~image,script".toList =
          .ok (.url rule) ∧
        rule.contentTypes = ⟨0x22FFFFFB⟩ ∧
        TypeMention.Determine
          [⟨.script, true⟩, ⟨.csp, false⟩, ⟨.elemhide, false⟩,
            ⟨.image, true⟩, ⟨.script, false⟩]
          rule.contentTypes ∧
        rule.matchesRequest ⟨"http://ab/".toList, none⟩
            (.ofType .elemhide) none = true ∧
        ∃ contentType : ContentType,
          contentType ≠ .csp ∧
            (TypeMask.ofType .elemhide).HasBit contentType.bit ∧
            ⟨contentType, false⟩ ∈
              TypeMention.ofText
                "@@||ab^$~script,csp,elemhide,~image,script".toList := by
  have parsed :
      Rule.parse true "@@||ab^$~script,csp,elemhide,~image,script".toList =
        .ok (.url (UrlRule.ofOptions
          "@@||ab^$~script,csp,elemhide,~image,script".toList
          ⟨false, "||ab^".toList, ⟨0x22FFFFFB⟩, false, [], none,
            [], [], [], []⟩)) := by
    decide +kernel
  have mentioned :
      TypeMention.ofText
          "@@||ab^$~script,csp,elemhide,~image,script".toList =
        [⟨.script, true⟩, ⟨.csp, false⟩, ⟨.elemhide, false⟩,
          ⟨.image, true⟩, ⟨.script, false⟩] := by
    decide +kernel
  have matched :
      (UrlRule.ofOptions
          "@@||ab^$~script,csp,elemhide,~image,script".toList
          ⟨false, "||ab^".toList, ⟨0x22FFFFFB⟩, false, [], none,
            [], [], [], []⟩).matchesRequest
        ⟨"http://ab/".toList, none⟩ (.ofType .elemhide) none = true := by
    decide +kernel
  have noResource (position : Nat)
      (bit : (TypeMask.ofType .elemhide).HasBit position) :
      TypeMask.resourceBits ≤ position := by
    rw [TypeMask.hasBit_ofType_iff.mp bit]
    decide
  obtain ⟨determined, named⟩ := contentTypes_of_parse parsed
  exact
    ⟨_, parsed, rfl, mentioned ▸ determined, matched,
      named _ _ _ noResource matched⟩

end UrlRule

end AdFilter
