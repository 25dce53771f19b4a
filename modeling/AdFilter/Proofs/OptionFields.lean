import AdFilter.Options.Setting
import AdFilter.Proofs.TextMaps

namespace AdFilter

/-!
# The fields that options write

An option with a known key writes one field of a rule.  The key is what precedes the value, without the tilde in front and in
any letter case.  Several keys may write the same field, and a policy or a header that is negated writes the content types.
An option with any other key writes nothing.
-/

/-- What an option of a rule may write. -/
inductive OptionField where
  | contentTypes
  | csp
  | header
  | matchCase
  | domains
  | party
  | sitekeys
  | rewrite
  deriving Repr, DecidableEq

namespace OptionField

/-- The keys, other than the names of content types, with the fields that they stand for. -/
def keys : List (Text × OptionField) :=
  [("match-case".toList, .matchCase),
   ("domain".toList, .domains),
   ("third-party".toList, .party),
   ("3p".toList, .party),
   ("first-party".toList, .party),
   ("1p".toList, .party),
   ("sitekey".toList, .sitekeys),
   ("rewrite".toList, .rewrite)]

/-- The field that the name of a content type stands for, in an option with a tilde or without. -/
def ofContentType (negated : Bool) (contentType : ContentType) : OptionField :=
  if negated then
    .contentTypes
  else
    match contentType with
    | .csp => .csp
    | .header => .header
    | _ => .contentTypes

/-- The key of an option, without a tilde. -/
def key (option : Text) : Text :=
  OptionClause.withoutTilde (Setting.keyAndValue option).1

/-- The field that an option writes, if it has a known key. -/
def ofOption? (option : Text) : Option OptionField :=
  match ContentType.ofName? (key option) with
  | some contentType =>
      some
        (ofContentType
          ((Setting.keyAndValue option).1.head? = some '~') contentType)
  | none => keys.lookup (Text.lower (key option))

/-- An option has a known key: the name of a content type, or one of the other keys. -/
def IsKnown (option : Text) : Prop :=
  (ContentType.ofName? (key option)).isSome = true ∨
    Text.lower (key option) ∈ keys.map Prod.fst

instance (option : Text) : Decidable (IsKnown option) :=
  inferInstanceAs (Decidable (_ ∨ _))

variable {option : Text}

/-- The options with a known key are those that write a field. -/
theorem isKnown_iff_isSome :
    IsKnown option ↔ (ofOption? option).isSome = true := by
  unfold IsKnown ofOption?
  cases ContentType.ofName? (key option) with
  | none =>
      simp
  | some contentType =>
      simp

end OptionField

namespace Setting

variable {setting : Setting} {option : Text}

/-- The field that a setting is for. -/
def field? : Setting → Option OptionField
  | .applyTo _ => some .contentTypes
  | .exceptFor _ => some .contentTypes
  | .csp _ => some .csp
  | .header _ => some .header
  | .matchCase _ => some .matchCase
  | .domains _ => some .domains
  | .thirdParty _ => some .party
  | .sitekeys _ => some .sitekeys
  | .rewrite _ => some .rewrite
  | .unknown => none

theorem field?_eq_none_iff :
    setting.field? = none ↔ setting = .unknown := by
  cases setting <;> simp [field?]

theorem field?_ofContentType
    (negated : Bool)
    (contentType : ContentType)
    (value : Text) :
    (ofContentType negated contentType value).field? =
      some (OptionField.ofContentType negated contentType) := by
  cases negated with
  | true =>
      rfl
  | false =>
      cases contentType <;> rfl

theorem field?_ofOtherKey
    (negated : Bool)
    (key value : Text) :
    (ofOtherKey negated key value).field? = OptionField.keys.lookup key := by
  -- The keys are compared in the same order on both sides.
  unfold ofOtherKey OptionField.keys
  rw [ite_or, ite_or]
  repeat rw [TextMap.lookup_cons_ite]
  repeat rw [apply_ite field?]
  rfl

/-- The setting of an option is for the field that the option writes. -/
theorem field?_ofOption
    (option : Text) :
    (ofOption option).field? = OptionField.ofOption? option := by
  unfold ofOption OptionField.ofOption? OptionField.key
  dsimp only
  cases ContentType.ofName?
      (OptionClause.withoutTilde (keyAndValue option).1) with
  | none =>
      exact field?_ofOtherKey _ _ _
  | some contentType =>
      exact field?_ofContentType _ contentType _

/-- The options that set nothing are those without a known key. -/
theorem ofOption_eq_unknown_iff :
    ofOption option = .unknown ↔ ¬ OptionField.IsKnown option := by
  rw [← field?_eq_none_iff, field?_ofOption, OptionField.isKnown_iff_isSome,
    Option.not_isSome_iff_eq_none]

/-- Hyphens and underscores are alike in the names of content types, but not in other keys. -/
example :
    OptionField.ofOption? "~Object-Subrequest".toList = some .contentTypes ∧
      OptionField.ofOption? "3P=a".toList = some .party ∧
      OptionField.ofOption? "third_party".toList = none := by
  decide +kernel

end Setting

end AdFilter
