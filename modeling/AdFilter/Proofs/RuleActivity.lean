import AdFilter.Proofs.DomainDecisions
import AdFilter.Proofs.UrlRuleForm

namespace AdFilter

/-!
# Where rules are active by their text

Whether a rule is active in a document follows from the entries of its list of domains and from its keys.  The entries
decide first; keys are asked only if no entry decides, and a rule without entries is active if no key is asked for.
-/

/-- No entry decides about the domain of a document, which may be unknown. -/
def NoneDecides (entries : List Text) (domain : Option Text) : Prop :=
  ∀ name, domain = some name → name ≠ [] → Domain.Undecided entries name

/-- Whether a rule with some entries of domains and some keys is to be active in a document. -/
inductive Activity
    (entries : List Text)
    (sitekeys : Option (List Text)) :
    Option Text → Option Text → Bool → Prop where
  | byEntry
      {domain name : Text}
      {sitekey : Option Text}
      {included : Bool}
      (known : domain ≠ [])
      (decides : Domain.Decides entries domain name included) :
      Activity entries sitekeys (some domain) sitekey included
  | byKey
      {domain : Option Text}
      {key : Text}
      {keys : List Text}
      {active : Bool}
      (noneDecides : NoneDecides entries domain)
      (restricted : sitekeys = some keys)
      (listed : active = true ↔ key ∈ keys) :
      Activity entries sitekeys domain (some key) active
  | byAbsence
      {domain sitekey : Option Text}
      {active : Bool}
      (noneDecides : NoneDecides entries domain)
      (noKey : sitekey = none ∨ sitekeys = none)
      (absent :
        active = true ↔ ∀ entry ∈ entries, entry = [] ∨ entry = ['~']) :
      Activity entries sitekeys domain sitekey active

namespace Restriction

variable {restriction : Restriction} {entries : List Text} {domain sitekey : Option Text} {active : Bool}

theorem decisionFor?_eq_none_iff
    (read : restriction.domains = .ofEntries entries) :
    restriction.decisionFor? domain = none ↔ NoneDecides entries domain := by
  rw [NoneDecides]
  match domain with
  | none =>
      simp [decisionFor?]
  | some [] =>
      simp [decisionFor?]
  | some (first :: rest) =>
      simp [decisionFor?, read, DomainMap.decision?_ofEntries_eq_none_iff]

theorem decisionFor?_eq_some_iff
    (read : restriction.domains = .ofEntries entries) :
    restriction.decisionFor? domain = some active ↔
      ∃ known name,
        domain = some known ∧ known ≠ [] ∧
          Domain.Decides entries known name active := by
  match domain with
  | none =>
      simp [decisionFor?]
  | some [] =>
      simp [decisionFor?]
  | some (first :: rest) =>
      simp [decisionFor?, read, DomainMap.decision?_ofEntries_eq_some_iff]

theorem isActiveByKey_iff
    {key : Text}
    {keys : List Text}
    (restricted : restriction.sitekeys = some keys) :
    restriction.isActiveByKey (some key) = true ↔ key ∈ keys := by
  simp [isActiveByKey, restricted]

/-- Without a key on both sides, a rule is active where nothing decides if it names no domains. -/
theorem isActiveByKey_of_no_key
    (noKey : sitekey = none ∨ restriction.sitekeys = none) :
    restriction.isActiveByKey sitekey = restriction.domains.isEmpty := by
  unfold isActiveByKey
  split
  · rename_i given
    simp [given] at noKey
  · rfl

/-- Where a restriction is active follows from the entries that its map of domains was made from. -/
theorem isActive_iff_activity
    (read : restriction.domains = .ofEntries entries) :
    restriction.isActive domain sitekey = active ↔
      Activity entries restriction.sitekeys domain sitekey active := by
  have isEmpty_iff :
      restriction.domains.isEmpty = true ↔
        ∀ entry ∈ entries, entry = [] ∨ entry = ['~'] := by
    rw [read]
    exact DomainMap.isEmpty_ofEntries_iff
  constructor
  · rintro rfl
    rw [isActive]
    cases decided : restriction.decisionFor? domain with
    | some included =>
        obtain ⟨known, name, rfl, notEmpty, decides⟩ :=
          (decisionFor?_eq_some_iff read).mp decided
        exact .byEntry notEmpty decides
    | none =>
        have noneDecides := (decisionFor?_eq_none_iff read).mp decided
        by_cases noKey : sitekey = none ∨ restriction.sitekeys = none
        · refine .byAbsence noneDecides noKey ?_
          rw [isActiveByKey_of_no_key noKey]
          exact isEmpty_iff
        · rw [not_or] at noKey
          obtain ⟨key, rfl⟩ := Option.ne_none_iff_exists'.mp noKey.1
          obtain ⟨keys, restricted⟩ := Option.ne_none_iff_exists'.mp noKey.2
          exact .byKey noneDecides restricted (isActiveByKey_iff restricted)
  · intro activity
    rw [isActive]
    cases activity with
    | byEntry known decides =>
        rw [(decisionFor?_eq_some_iff read).mpr ⟨_, _, rfl, known, decides⟩]
    | byKey noneDecides restricted listed =>
        rw [(decisionFor?_eq_none_iff read).mpr noneDecides]
        exact
          Bool.eq_iff_iff.mpr
            ((isActiveByKey_iff restricted).trans listed.symm)
    | byAbsence noneDecides noKey absent =>
        rw [(decisionFor?_eq_none_iff read).mpr noneDecides,
          isActiveByKey_of_no_key noKey]
        exact Bool.eq_iff_iff.mpr (isEmpty_iff.trans absent.symm)

end Restriction

namespace Rule

variable {strict : Bool} {text : Text} {rule : Rule} {restriction : Restriction}

/-- The restriction of a rule on addresses or on contents. -/
def restriction? : Rule → Option Restriction
  | .comment _ => none
  | .invalid _ => none
  | .url rule => some rule.restriction
  | .content rule => some rule.restriction

/-- The entries of the list of domains of a rule, as they are written. -/
def domainEntries : Rule → List Text
  | .comment _ => []
  | .invalid _ => []
  | .url rule => List.splitOn '|' rule.domainSource
  | .content rule => List.splitOn ',' rule.domainSource

/-- The map of domains of a rule is made from the entries that are written in it. -/
theorem domains_of_parse
    (parsed : Rule.parse strict text = .ok rule)
    (restricted : rule.restriction? = some restriction) :
    restriction.domains = .ofEntries rule.domainEntries := by
  cases rule with
  | comment _ =>
      cases restricted
  | invalid _ =>
      cases restricted
  | url rule =>
      obtain ⟨_, _, _, _, _, _, _, rfl⟩ := exists_options_of_parse parsed
      cases restricted
      rfl
  | content rule =>
      obtain ⟨parts, _, rfl⟩ := exists_parts_of_parse parsed
      cases restricted
      rfl

/--
Where a rule is active follows from its text: the last entry for the longest name that covers the domain of the document
decides; without one, the keys decide if there are some on both sides, and else a rule without entries is active.
-/
theorem isActive_iff_activity_of_parse
    (parsed : Rule.parse strict text = .ok rule)
    (restricted : rule.restriction? = some restriction)
    (domain sitekey : Option Text)
    (active : Bool) :
    restriction.isActive domain sitekey = active ↔
      Activity rule.domainEntries restriction.sitekeys domain sitekey active :=
  Restriction.isActive_iff_activity (domains_of_parse parsed restricted)

/-- The later of two entries for a domain decides, and keys count where the domain is unknown. -/
theorem isActive_iff_activity_of_parse_nested :
    ∃ rule restriction,
      Rule.parse true "abcd$domain=x.y|z.x.y|~Z.x.Y,sitekey=k|l".toList =
          .ok rule ∧
        rule.restriction? = some restriction ∧
        rule.domainEntries =
          ["x.y".toList, "z.x.y".toList, "~Z.x.Y".toList] ∧
        restriction.sitekeys = some ["k".toList, "l".toList] ∧
        Activity rule.domainEntries restriction.sitekeys
          (some "W.z.x.y".toList) (some "k".toList) false ∧
        Activity rule.domainEntries restriction.sitekeys
          none (some "l".toList) true := by
  have parsed :
      Rule.parse true "abcd$domain=x.y|z.x.y|~Z.x.Y,sitekey=k|l".toList =
        .ok (.url (UrlRule.ofOptions
          "abcd$domain=x.y|z.x.y|~Z.x.Y,sitekey=k|l".toList
          ⟨true, "abcd".toList, ⟨0xFFFFFF⟩, false,
            "x.y|z.x.y|~Z.x.Y".toList, none, "k|l".toList, [], [], []⟩)) := by
    decide +kernel
  have activity := isActive_iff_activity_of_parse parsed rfl
  refine ⟨_, _, parsed, rfl, by decide +kernel, by decide +kernel, ?_, ?_⟩
  · exact (activity _ _ _).mp (by decide +kernel)
  · exact (activity _ _ _).mp (by decide +kernel)

end Rule

end AdFilter
