import AdFilter.Proofs.OptionFields
import AdFilter.Proofs.UrlRuleForm

namespace AdFilter

/-!
# Options in another order

Options that write different fields do not disturb each other.  What options make up is put together field by field, and
each field is what the options that write it make up, so only their order among themselves counts.  Every option is checked
on its own and their combination is checked on what they make up; which of several faults is reported may depend on the
order, whether there is one does not.  Without the strict policy, unknown options might as well be missing.
-/

namespace OptionField

/-- The options that write a field, in their order. -/
def writing (field : OptionField) (options : List Text) : List Text :=
  options.filter fun option => ofOption? option = some field

/-- The options with known keys, in their order. -/
def known (options : List Text) : List Text :=
  options.filter fun option => (ofOption? option).isSome

/-- Options are the same ones in another order, in which those that write the same field stand in the same order as before. -/
structure Rearranged (first second : List Text) : Prop where
  perm : first.Perm second
  ordered : ∀ field, writing field first = writing field second

/-- All fields. -/
def all : List OptionField :=
  [.contentTypes, .csp, .header, .matchCase, .domains, .party, .sitekeys,
   .rewrite]

theorem mem_all
    (field : OptionField) :
    field ∈ all := by
  cases field <;> decide

variable {first second options : List Text} {option : Text}

theorem rearranged_iff :
    Rearranged first second ↔
      first.Perm second ∧
        ∀ field ∈ all, writing field first = writing field second := by
  constructor
  · intro rearranged
    exact ⟨rearranged.perm, fun field _ => rearranged.ordered field⟩
  · rintro ⟨perm, ordered⟩
    exact ⟨perm, fun field => ordered field (mem_all field)⟩

instance (first second : List Text) : Decidable (Rearranged first second) :=
  decidable_of_iff _ rearranged_iff.symm

theorem writing_known
    (field : OptionField)
    (options : List Text) :
    writing field (known options) = writing field options := by
  rw [writing, known, List.filter_filter]
  apply List.filter_congr
  intro option _
  cases ofOption? option <;> simp

theorem mem_known_iff :
    option ∈ known options ↔ option ∈ options ∧ IsKnown option := by
  rw [known, List.mem_filter, isKnown_iff_isSome]

end OptionField

/-! ## One field after the other -/

namespace OptionDraft

variable {first second draft : OptionDraft} {field : OptionField} {setting : Setting}

/-- What a draft has in a field, and nothing in the other ones. -/
def only (field : OptionField) (draft : OptionDraft) : OptionDraft :=
  match field with
  | .contentTypes => { empty with contentTypes := draft.contentTypes }
  | .csp => { empty with csp := draft.csp }
  | .header => { empty with header := draft.header }
  | .matchCase => { empty with matchCase := draft.matchCase }
  | .domains => { empty with domains := draft.domains }
  | .party => { empty with thirdParty := draft.thirdParty }
  | .sitekeys => { empty with sitekeys := draft.sitekeys }
  | .rewrite => { empty with rewrite := draft.rewrite }

/-- Drafts with the same in every field are the same. -/
theorem eq_of_only_eq
    (same : ∀ field, first.only field = second.only field) :
    first = second := by
  have contentTypes := congrArg OptionDraft.contentTypes (same .contentTypes)
  have csp := congrArg OptionDraft.csp (same .csp)
  have header := congrArg OptionDraft.header (same .header)
  have matchCase := congrArg OptionDraft.matchCase (same .matchCase)
  have domains := congrArg OptionDraft.domains (same .domains)
  have party := congrArg OptionDraft.thirdParty (same .party)
  have sitekeys := congrArg OptionDraft.sitekeys (same .sitekeys)
  have rewrite := congrArg OptionDraft.rewrite (same .rewrite)
  cases first
  cases second
  rw [OptionDraft.mk.injEq]
  exact
    ⟨contentTypes, matchCase, domains, party, sitekeys, csp, header,
      rewrite⟩

/-- A setting for a field does to a draft in that field what it does to the field alone. -/
theorem only_set_of_field
    (writes : setting.field? = some field) :
    (draft.set setting).only field = (draft.only field).set setting := by
  cases setting with
  | unknown =>
      cases writes
  | _ =>
      obtain rfl := Option.some.inj writes
      rfl

/-- A setting leaves the fields that it is not for as they are. -/
theorem only_set_of_other_field
    (other : setting.field? ≠ some field) :
    (draft.set setting).only field = draft.only field := by
  cases setting <;> cases field <;>
    first
    | rfl
    | exact absurd rfl other

/-- A field is what the settings for it make up. -/
theorem only_ofSettings
    (field : OptionField)
    (settings : List Setting) :
    (ofSettings settings).only field =
      ofSettings
        (settings.filter fun setting => setting.field? = some field) := by
  induction settings using List.reverseRecOn with
  | nil =>
      cases field <;> rfl
  | append_singleton earlier last inductionHypothesis =>
      rw [ofSettings_concat, List.filter_append]
      by_cases writes : last.field? = some field
      · rw [only_set_of_field writes, inductionHypothesis,
          List.filter_cons_of_pos (by simpa using writes), List.filter_nil,
          ofSettings_concat]
      · rw [only_set_of_other_field writes, inductionHypothesis,
          List.filter_cons_of_neg (by simpa using writes), List.filter_nil,
          List.append_nil]

/-- Options of which those for each field are the same, in the same order, make up the same. -/
theorem ofSettings_eq_of_writing_eq
    {first second : List Text}
    (same :
      ∀ field,
        OptionField.writing field first = OptionField.writing field second) :
    ofSettings (first.map Setting.ofOption) =
      ofSettings (second.map Setting.ofOption) := by
  have settings_writing (field : OptionField) (options : List Text) :
      ((options.map Setting.ofOption).filter
          fun setting => setting.field? = some field) =
        (OptionField.writing field options).map Setting.ofOption := by
    rw [List.filter_map, OptionField.writing]
    congr 2
    funext option
    rw [Function.comp_apply, Setting.field?_ofOption]
  apply eq_of_only_eq
  intro field
  rw [only_ofSettings, only_ofSettings, settings_writing, settings_writing,
    same field]

end OptionDraft

/-! ## Faults -/

namespace RuleOptions

open OptionField

variable {strict blocking : Bool} {pattern : Text} {first second options : List Text}

/-- Without the strict policy, options have no fault of their own if those with known keys have none. -/
theorem forall_fault?_lenient_iff :
    (∀ option ∈ options,
        (Setting.ofOption option).fault? blocking false = none) ↔
      ∀ option ∈ known options,
        (Setting.ofOption option).fault? blocking false = none := by
  constructor
  · intro accepted option member
    exact accepted option (mem_known_iff.mp member).1
  · intro accepted option member
    by_cases isKnown : IsKnown option
    · exact accepted option (mem_known_iff.mpr ⟨member, isKnown⟩)
    · rw [Setting.ofOption_eq_unknown_iff.mpr isKnown]
      rfl

/-- Rearranged options have no fault of their own if they had none before. -/
theorem forall_fault?_iff_of_perm
    (perm : first.Perm second) :
    (∀ option ∈ first,
        (Setting.ofOption option).fault? blocking strict = none) ↔
      ∀ option ∈ second,
        (Setting.ofOption option).fault? blocking strict = none := by
  simp only [perm.mem_iff]

/-- Options with the same settings field by field, and without a fault of their own in both orders, have the same faults together. -/
theorem fault?_eq_none_iff_of_writing_eq
    (same : ∀ field, writing field first = writing field second)
    (alike :
      (∀ option ∈ first,
          (Setting.ofOption option).fault? blocking strict = none) ↔
        ∀ option ∈ second,
          (Setting.ofOption option).fault? blocking strict = none) :
    fault? strict blocking pattern (first.map Setting.ofOption) = none ↔
      fault? strict blocking pattern (second.map Setting.ofOption) =
        none := by
  rw [fault?_eq_none_iff, fault?_eq_none_iff, List.forall_mem_map,
    List.forall_mem_map, OptionDraft.ofSettings_eq_of_writing_eq same, alike]

/--
Options in another order, in which those that write the same field are in the same order as before, are read as the same or
refused in both orders.  Without the strict policy this also holds if unknown options are added or left out, even
if none are left then.
-/
theorem parse_written_of_rearranged
    (noDollar : '$' ∉ pattern)
    (firstWellFormed : ∀ option ∈ first, OptionClause.WellFormed option)
    (secondWellFormed : ∀ option ∈ second, OptionClause.WellFormed option)
    (rearranged :
      Rearranged first second ∨
        strict = false ∧ Rearranged (known first) (known second)) :
    (∃ made,
        parse strict (OptionClause.written pattern first) = .ok made ∧
          parse strict (OptionClause.written pattern second) = .ok made) ∨
      ∃ rejection otherRejection,
        parse strict (OptionClause.written pattern first) =
            .error rejection ∧
          parse strict (OptionClause.written pattern second) =
            .error otherRejection := by
  have same : ∀ field, writing field first = writing field second := by
    intro field
    rcases rearranged with all | ⟨_, knownOnes⟩
    · exact all.ordered field
    · have ordered := knownOnes.ordered field
      rwa [writing_known, writing_known] at ordered
  have alike :
      (∀ option ∈ first,
          (Setting.ofOption option).fault? (blockingAndRest pattern).1
            strict = none) ↔
        ∀ option ∈ second,
          (Setting.ofOption option).fault? (blockingAndRest pattern).1
            strict = none := by
    rcases rearranged with all | ⟨rfl, knownOnes⟩
    · exact forall_fault?_iff_of_perm all.perm
    · exact
        forall_fault?_lenient_iff.trans
          ((forall_fault?_iff_of_perm knownOnes.perm).trans
            forall_fault?_lenient_iff.symm)
  have sameReading (made : RuleOptions) :
      parse strict (OptionClause.written pattern first) = .ok made ↔
        parse strict (OptionClause.written pattern second) = .ok made := by
    rw [parse_written_eq_ok_iff noDollar firstWellFormed,
      parse_written_eq_ok_iff noDollar secondWellFormed,
      fault?_eq_none_iff_of_writing_eq same alike,
      OptionDraft.ofSettings_eq_of_writing_eq same]
  cases readFirst : parse strict (OptionClause.written pattern first) with
  | ok made =>
      exact Or.inl ⟨made, rfl, (sameReading made).mp readFirst⟩
  | error rejection =>
      cases readSecond : parse strict (OptionClause.written pattern second) with
      | ok made =>
          have readToo := (sameReading made).mpr readSecond
          rw [readFirst] at readToo
          cases readToo
      | error otherRejection =>
          exact Or.inr ⟨rejection, otherRejection, rfl, rfl⟩

/--
Six options are read strictly as the same in two orders, an option is left out with its clause because it is unknown, and of
two faulty options either may come first.
-/
theorem parse_written_of_rearranged_six :
    ∃ six none : RuleOptions, ∃ rejection : Rejection,
      parse true "@@ab$1p,Image,domain=c,3p,~script,csp=x".toList = .ok six ∧
        parse true "@@ab$csp=x,Image,1p,~script,domain=c,3p".toList =
          .ok six ∧
        parse false "ab$foo=1".toList = .ok none ∧
        parse false "ab".toList = .ok none ∧
        parse false "ab$csp,rewrite=x".toList =
          .error ⟨.invalidCsp, "ab$csp,rewrite=x".toList⟩ ∧
        parse false "ab$rewrite=x,csp".toList = .error rejection := by
  have readSix :
      parse true
          (OptionClause.written "@@ab".toList
            ["1p".toList, "Image".toList, "domain=c".toList, "3p".toList,
              "~script".toList, "csp=x".toList]) =
        .ok
          ⟨false, "ab".toList, ⟨0x2000004⟩, false, "c".toList, some true,
            [], "x".toList, [], []⟩ := by
    decide +kernel
  have rearrangedSix :
      Rearranged
        ["1p".toList, "Image".toList, "domain=c".toList, "3p".toList,
          "~script".toList, "csp=x".toList]
        ["csp=x".toList, "Image".toList, "1p".toList, "~script".toList,
          "domain=c".toList, "3p".toList] := by
    decide +kernel
  have readNone :
      parse false (OptionClause.written "ab".toList ["foo=1".toList]) =
        .ok
          ⟨true, "ab".toList, .resources, false, [], none, [], [], [],
            []⟩ := by
    decide +kernel
  have nothingKnown :
      Rearranged (known ["foo=1".toList]) (known []) := by
    decide +kernel
  have refused :
      parse false
          (OptionClause.written "ab".toList
            ["csp".toList, "rewrite=x".toList]) =
        .error ⟨.invalidCsp, "ab$csp,rewrite=x".toList⟩ := by
    decide +kernel
  have rearrangedFaults :
      Rearranged ["csp".toList, "rewrite=x".toList]
        ["rewrite=x".toList, "csp".toList] := by
    decide +kernel
  have noDollar : '$' ∉ "ab".toList := by
    decide
  have noDollarMarked : '$' ∉ "@@ab".toList := by
    decide
  obtain ⟨six, sixHere, sixThere⟩ :=
    (parse_written_of_rearranged noDollarMarked (by decide +kernel)
      (by decide +kernel) (Or.inl rearrangedSix)).resolve_right
      (by
        rintro ⟨_, _, sixRefused, _⟩
        rw [readSix] at sixRefused
        cases sixRefused)
  obtain ⟨none, noneHere, noneThere⟩ :=
    (parse_written_of_rearranged noDollar (by decide +kernel)
      (by decide +kernel) (Or.inr ⟨rfl, nothingKnown⟩)).resolve_right
      (by
        rintro ⟨_, _, noneRefused, _⟩
        rw [readNone] at noneRefused
        cases noneRefused)
  obtain ⟨_, rejection, _, refusedThere⟩ :=
    (parse_written_of_rearranged noDollar (by decide +kernel)
      (by decide +kernel) (Or.inl rearrangedFaults)).resolve_left
      (by
        rintro ⟨_, accepted, _⟩
        rw [refused] at accepted
        cases accepted)
  exact
    ⟨six, none, rejection, sixHere, sixThere, noneHere, noneThere, refused,
      refusedThere⟩

end RuleOptions

end AdFilter
