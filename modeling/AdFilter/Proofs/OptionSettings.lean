import AdFilter.Options.Basic
import AdFilter.Proofs.TypeMasks

namespace AdFilter

/-!
# What settings leave behind

Later options override earlier ones, and every option is checked on its own.  What holds of the result whatever the
options, their number and their order, is an invariant of drafts that every accepted setting preserves.
-/

namespace Setting

/-- The types of policies and headers are never added on their own. -/
def AddsNoInjection : Setting → Prop
  | .applyTo contentType => contentType ≠ .csp ∧ contentType ≠ .header
  | _ => True

theorem addsNoInjection_ofContentType
    (negated : Bool)
    (contentType : ContentType)
    (value : Text) :
    (ofContentType negated contentType value).AddsNoInjection := by
  unfold ofContentType
  split
  · trivial
  · cases contentType <;> simp [AddsNoInjection]

theorem addsNoInjection_ofOtherKey
    (negated : Bool)
    (key value : Text) :
    (ofOtherKey negated key value).AddsNoInjection := by
  unfold ofOtherKey
  repeat' split
  all_goals trivial

/-- An option that names a policy or a header sets it. -/
theorem addsNoInjection_ofOption
    (option : Text) :
    (ofOption option).AddsNoInjection := by
  unfold ofOption
  dsimp only
  split
  · exact addsNoInjection_ofContentType _ _ _
  · exact addsNoInjection_ofOtherKey _ _ _

end Setting

namespace ContentType

/-- The number of bits that types may have. -/
def bitCount : Nat := 31

theorem bit_lt_bitCount
    (contentType : ContentType) :
    contentType.bit < bitCount := by
  cases contentType <;> decide

theorem bit_injective :
    Function.Injective bit := by
  intro first second
  cases first <;> cases second <;> simp [bit]

end ContentType

namespace OptionDraft

/-- A bit that options may set by naming types: one of a type, but not that of policies or headers. -/
def IsNamedBit (position : Nat) : Prop :=
  position < ContentType.bitCount ∧
    position ≠ ContentType.csp.bit ∧
    position ≠ ContentType.header.bit

/-- What accepted settings make up. -/
structure Sound (blocking : Bool) (draft : OptionDraft) : Prop where
  namedBits :
    ∀ position,
      (draft.contentTypes.getD .resources).HasBit position →
        IsNamedBit position
  domains :
    draft.domains ≠ [] →
      (DomainMap.ofSource '|' draft.domains).isEmpty = false
  csp : blocking = true → draft.csp ≠ some []
  header : blocking = true → draft.header ≠ some []

variable {blocking strict : Bool} {draft : OptionDraft} {setting : Setting}

theorem isNamedBit_of_lt
    {position : Nat}
    (isResource : position < TypeMask.resourceBits) :
    IsNamedBit position := by
  have below : position < 24 := isResource
  refine ⟨?_, ?_, ?_⟩
  · exact below.trans (by decide)
  · exact (below.trans (by decide)).ne
  · exact (below.trans (by decide)).ne

theorem sound_empty :
    Sound blocking .empty where
  namedBits := fun _ bit =>
    isNamedBit_of_lt (TypeMask.hasBit_resources_iff.mp bit)
  domains := fun notEmpty => absurd rfl notEmpty
  csp := nofun
  header := nofun

/-- The bits that were named before a type is added are still those of types that options may name. -/
theorem Sound.namedBits_getD_empty
    (sound : Sound blocking draft)
    {position : Nat}
    (bit : (draft.contentTypes.getD .empty).HasBit position) :
    IsNamedBit position := by
  have namedBits := sound.namedBits
  cases named : draft.contentTypes with
  | none =>
      rw [named] at bit
      exact absurd bit TypeMask.not_hasBit_empty
  | some mask =>
      rw [named] at bit namedBits
      exact namedBits position bit

/-- An accepted setting keeps a draft sound. -/
theorem Sound.set
    (sound : Sound blocking draft)
    (regular : setting.AddsNoInjection)
    (accepted : setting.fault? blocking strict = none) :
    Sound blocking (draft.set setting) := by
  cases setting with
  | applyTo contentType =>
      refine ⟨?_, sound.domains, sound.csp, sound.header⟩
      intro position bit
      rcases TypeMask.hasBit_union_iff.mp bit with named | added
      · exact sound.namedBits_getD_empty named
      · rw [TypeMask.hasBit_ofType_iff.mp added]
        exact
          ⟨contentType.bit_lt_bitCount,
            fun same => regular.1 (ContentType.bit_injective same),
            fun same => regular.2 (ContentType.bit_injective same)⟩
  | exceptFor contentType =>
      refine ⟨?_, sound.domains, sound.csp, sound.header⟩
      intro position bit
      exact sound.namedBits position (TypeMask.hasBit_exclude_iff.mp bit).1
  | csp policy =>
      refine ⟨sound.namedBits, sound.domains, ?_, sound.header⟩
      rintro rfl isEmpty
      have noPolicy : policy = [] := Option.some.inj isEmpty
      simp [Setting.fault?, noPolicy] at accepted
  | header condition =>
      refine ⟨sound.namedBits, sound.domains, sound.csp, ?_⟩
      rintro rfl isEmpty
      have noCondition : condition = [] := Option.some.inj isEmpty
      simp [Setting.fault?, noCondition] at accepted
  | domains source =>
      refine ⟨sound.namedBits, ?_, sound.csp, sound.header⟩
      intro _
      have someDomain : (DomainMap.ofSource '|' source).isEmpty = false := by
        simpa [Setting.fault?] using accepted
      exact someDomain
  | matchCase value =>
      exact ⟨sound.namedBits, sound.domains, sound.csp, sound.header⟩
  | thirdParty value =>
      exact ⟨sound.namedBits, sound.domains, sound.csp, sound.header⟩
  | sitekeys source =>
      exact ⟨sound.namedBits, sound.domains, sound.csp, sound.header⟩
  | rewrite resource =>
      exact ⟨sound.namedBits, sound.domains, sound.csp, sound.header⟩
  | unknown =>
      exact sound

theorem ofSettings_concat
    (earlier : List Setting)
    (last : Setting) :
    ofSettings (earlier ++ [last]) = (ofSettings earlier).set last := by
  rw [ofSettings, List.foldl_append]
  rfl

/-- Accepted settings, however many and in whatever order, make up a sound draft. -/
theorem sound_ofSettings
    {settings : List Setting}
    (regular : ∀ setting ∈ settings, setting.AddsNoInjection)
    (accepted :
      ∀ setting ∈ settings, setting.fault? blocking strict = none) :
    Sound blocking (ofSettings settings) := by
  -- From the last setting backwards: what the settings before it make up is sound.
  induction settings using List.reverseRecOn with
  | nil =>
      exact sound_empty
  | append_singleton earlier last inductionHypothesis =>
      have soundEarlier : Sound blocking (ofSettings earlier) :=
        inductionHypothesis
          (fun setting member => regular setting (by simp [member]))
          (fun setting member => accepted setting (by simp [member]))
      rw [ofSettings_concat]
      exact
        soundEarlier.set (regular last (by simp)) (accepted last (by simp))

/-! ## The mask of a draft -/

/-- The mask has the bits that are named, and those of the policy and the header if there are any. -/
theorem hasBit_mask_iff
    {position : Nat} :
    draft.mask.HasBit position ↔
      (draft.contentTypes.getD .resources).HasBit position ∨
        (draft.csp.isSome = true ∧ position = ContentType.csp.bit) ∨
        (draft.header.isSome = true ∧ position = ContentType.header.bit) := by
  cases policy : draft.csp <;> cases condition : draft.header <;>
    simp [mask, policy, condition, or_assoc]

/-- The mask has the bit of policies exactly if there is a policy. -/
theorem Sound.hasBit_csp_iff
    (sound : Sound blocking draft) :
    draft.mask.HasBit ContentType.csp.bit ↔ draft.csp.isSome = true := by
  rw [hasBit_mask_iff]
  constructor
  · intro bit
    rcases bit with named | isSet | ⟨_, same⟩
    · exact absurd rfl (sound.namedBits _ named).2.1
    · exact isSet.1
    · exact absurd same (by decide)
  · intro isSet
    exact Or.inr (Or.inl ⟨isSet, rfl⟩)

/-- The mask has the bit of headers exactly if there is a header. -/
theorem Sound.hasBit_header_iff
    (sound : Sound blocking draft) :
    draft.mask.HasBit ContentType.header.bit ↔
      draft.header.isSome = true := by
  rw [hasBit_mask_iff]
  constructor
  · intro bit
    rcases bit with named | ⟨_, same⟩ | isSet
    · exact absurd rfl (sound.namedBits _ named).2.2
    · exact absurd same (by decide)
    · exact isSet.1
  · intro isSet
    exact Or.inr (Or.inr ⟨isSet, rfl⟩)

/-- The mask has no bits beyond those of types. -/
theorem Sound.mask_bits_lt
    (sound : Sound blocking draft) :
    draft.mask.bits < 2 ^ ContentType.bitCount := by
  apply TypeMask.bits_lt_of_forall
  intro position bit
  rcases hasBit_mask_iff.mp bit with named | ⟨_, rfl⟩ | ⟨_, rfl⟩
  · exact (sound.namedBits position named).1
  · exact ContentType.bit_lt_bitCount .csp
  · exact ContentType.bit_lt_bitCount .header

end OptionDraft

end AdFilter
