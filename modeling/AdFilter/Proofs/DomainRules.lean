import AdFilter.Proofs.OptionClauses
import AdFilter.Proofs.PatternMeaning
import AdFilter.Proofs.QueriedTypes
import AdFilter.Proofs.TextPieces
import AdFilter.Rule.Parser

namespace AdFilter

/-!
# Rules for domains

The rule `||domain^` is the most common one.  Read to the letter, its pattern begins after a label of a host and ends
before a separator; this module shows which hosts that comes down to.  Nothing of the port and nothing of the path can
be taken for a label, since a path begins with a slash and a port has no points.
-/

namespace DomainRule

open Pattern

/-! ## Addresses -/

/-- A character of a domain as rules name it: a small letter, a digit, a point or a hyphen. -/
def isDomainChar (c : Char) : Bool :=
  c.isLower || c.isDigit || c = '.' || c = '-'

/-- A character of a host: a letter, a digit, a point or a hyphen. -/
def isHostChar (c : Char) : Bool :=
  c.isAlphanum || c = '.' || c = '-'

/-- A character of a scheme: a letter, a digit or a hyphen. -/
def isSchemeChar (c : Char) : Bool :=
  c.isAlphanum || c = '-'

/-- A text that is not empty and consists of certain characters. -/
structure ConsistsOf (holds : Char → Bool) (text : Text) : Prop where
  notEmpty : text ≠ []
  chars : ∀ c ∈ text, holds c = true

/-- What may follow a host: nothing, a path, or a port and perhaps a path. -/
inductive AfterHost : Text → Prop where
  | nothing :
      AfterHost []
  | path (path : Text) :
      AfterHost ('/' :: path)
  | port
      {digits : Text}
      (areDigits : ∀ c ∈ digits, c.isDigit = true) :
      AfterHost (':' :: digits)
  | portAndPath
      {digits : Text}
      (areDigits : ∀ c ∈ digits, c.isDigit = true)
      (path : Text) :
      AfterHost (':' :: (digits ++ '/' :: path))

/-- The address with a scheme, a host and what follows it. -/
def address (scheme host rest : Text) : Text :=
  scheme ++ ([':', '/', '/'] ++ (host ++ rest))

/-- The text of the rule for a domain. -/
def text (domain : Text) : Text :=
  ['|', '|'] ++ domain ++ ['^']

theorem toNat_lt_of_isHostChar
    {c : Char}
    (isOne : isHostChar c = true) :
    c.toNat < 0x80 := by
  simp only [isHostChar, Bool.or_eq_true, decide_eq_true_eq] at isOne
  rcases isOne with (alphanum | rfl) | rfl
  · exact toNat_lt_of_isAlphanum alphanum
  · decide
  · decide

theorem isHostChar_of_isDomainChar
    {c : Char}
    (isOne : isDomainChar c = true) :
    isHostChar c = true := by
  simp only [isDomainChar, isHostChar, Char.isAlphanum, Char.isAlpha,
    Bool.or_eq_true] at isOne ⊢
  tauto

theorem isHostChar_of_isSchemeChar
    {c : Char}
    (isOne : isSchemeChar c = true) :
    isHostChar c = true := by
  simp only [isSchemeChar, isHostChar, Bool.or_eq_true] at isOne ⊢
  tauto

theorem isSeparator_of_isHostChar
    {c : Char}
    (isOne : isHostChar c = true) :
    isSeparator c = false :=
  ascii_of_forall_point
    (fun c => isHostChar c = true → isSeparator c = false)
    (by decide) (toNat_lt_of_isHostChar isOne) isOne

theorem toLower_of_isDomainChar
    {c : Char}
    (isOne : isDomainChar c = true) :
    c.toLower = c :=
  ascii_of_forall_point
    (fun c => isDomainChar c = true → c.toLower = c)
    (by decide)
    (toNat_lt_of_isHostChar (isHostChar_of_isDomainChar isOne)) isOne

theorem toLower_of_isDigit
    {c : Char}
    (digit : c.isDigit = true) :
    c.toLower = c :=
  toLower_of_isDomainChar (by simp [isDomainChar, digit])

theorem isDomainChar_toLower
    {c : Char}
    (isOne : isHostChar c = true) :
    isDomainChar c.toLower = true :=
  ascii_of_forall_point
    (fun c => isHostChar c = true → isDomainChar c.toLower = true)
    (by decide) (toNat_lt_of_isHostChar isOne) isOne

theorem isSchemeMark_toLower
    {c : Char}
    (isOne : isSchemeChar c = true) :
    isSchemeMark c.toLower = true :=
  ascii_of_forall_point
    (fun c => isSchemeChar c = true → isSchemeMark c.toLower = true)
    (by decide)
    (toNat_lt_of_isHostChar (isHostChar_of_isSchemeChar isOne)) isOne

/-- Characters of domains are the same only if they are equal. -/
theorem same_iff_of_isDomainChar
    {expected c : Char}
    (expectedIsOne : isDomainChar expected = true)
    (isOne : isDomainChar c = true) :
    CaseRule.ignored.Same expected c ↔ c = expected := by
  have ascii {c : Char} (isOne : isDomainChar c = true) : c.toNat < 0x80 :=
    toNat_lt_of_isHostChar (isHostChar_of_isDomainChar isOne)
  rw [CaseRule.Same,
    Text.sameLetter_iff_of_ascii (ascii expectedIsOne) (ascii isOne),
    toLower_of_isDomainChar isOne, toLower_of_isDomainChar expectedIsOne]

/-- No character of a domain is the same as a character of the marks between the parts of an address. -/
theorem not_same_of_isMark
    {expected mark : Char}
    (isOne : isDomainChar expected = true)
    (isMark : Text.isMark mark = true)
    (noDomainChar : isDomainChar mark = false) :
    ¬ CaseRule.ignored.Same expected mark := by
  intro same
  rw [Text.eq_of_sameLetter_of_isMark isMark same, noDomainChar] at isOne
  cases isOne

namespace AfterHost

/-- What follows a host begins with a mark that no domain has, if with anything. -/
theorem eq_nil_or_cons
    {rest : Text}
    (afterHost : AfterHost rest) :
    rest = [] ∨ ∃ mark others, rest = mark :: others ∧ (mark = '/' ∨ mark = ':') := by
  cases afterHost with
  | nothing =>
      exact Or.inl rfl
  | path path =>
      exact Or.inr ⟨_, _, rfl, Or.inl rfl⟩
  | port areDigits =>
      exact Or.inr ⟨_, _, rfl, Or.inr rfl⟩
  | portAndPath areDigits path =>
      exact Or.inr ⟨_, _, rfl, Or.inr rfl⟩

/-- No character of a domain is the same as the one that a host is followed by. -/
theorem not_same
    {expected c : Char}
    {others : Text}
    (afterHost : AfterHost (c :: others))
    (isOne : isDomainChar expected = true) :
    ¬ CaseRule.ignored.Same expected c := by
  rcases afterHost.eq_nil_or_cons with
      isEmpty | ⟨mark, more, shape, isMark⟩
  · cases isEmpty
  · obtain ⟨rfl, rfl⟩ := List.cons.inj shape
    rcases isMark with rfl | rfl
    · exact not_same_of_isMark isOne (by decide) (by decide)
    · exact not_same_of_isMark isOne (by decide) (by decide)

/-- What follows a host still does in lower case. -/
theorem lowerFrom
    {rest : Text}
    (afterHost : AfterHost rest)
    (afterCased : Bool) :
    AfterHost (Text.lowerFrom afterCased rest) := by
  have markKept :
      ∀ c ∈ [':', '/'], c.toNat < 0x80 ∧ c.toLower = c := by
    simp
  have digitsKept
      {digits : Text}
      (areDigits : ∀ c ∈ digits, c.isDigit = true) :
      ∀ c ∈ digits, c.toNat < 0x80 ∧ c.toLower = c :=
    fun c member =>
      ⟨toNat_lt_of_isDigit (areDigits c member),
        toLower_of_isDigit (areDigits c member)⟩
  cases afterHost with
  | nothing =>
      exact .nothing
  | path path =>
      have kept : ∀ c ∈ ['/'], c.toNat < 0x80 ∧ c.toLower = c :=
        fun c member => markKept c (by simp_all)
      obtain ⟨later, lowered⟩ :=
        Text.exists_lowerFrom_append_of_kept kept afterCased path
      rw [List.singleton_append, List.singleton_append] at lowered
      rw [lowered]
      exact .path _
  | @port digits areDigits =>
      have kept : ∀ c ∈ ':' :: digits, c.toNat < 0x80 ∧ c.toLower = c := by
        intro c member
        rcases List.mem_cons.mp member with isColon | inDigits
        · exact markKept c (by simp [isColon])
        · exact digitsKept areDigits c inDigits
      obtain ⟨later, lowered⟩ :=
        Text.exists_lowerFrom_append_of_kept kept afterCased []
      rw [List.append_nil, Text.lowerFrom, List.append_nil] at lowered
      rw [lowered]
      exact .port areDigits
  | @portAndPath digits areDigits path =>
      have kept :
          ∀ c ∈ ':' :: (digits ++ ['/']),
            c.toNat < 0x80 ∧ c.toLower = c := by
        intro c member
        rcases List.mem_cons.mp member with isColon | inRest
        · exact markKept c (by simp [isColon])
        · rcases List.mem_append.mp inRest with inDigits | isSlash
          · exact digitsKept areDigits c inDigits
          · exact markKept c (by simp_all)
      obtain ⟨later, lowered⟩ :=
        Text.exists_lowerFrom_append_of_kept kept afterCased path
      rw [List.cons_append, List.append_assoc, List.singleton_append,
        List.cons_append, List.append_assoc, List.singleton_append] at lowered
      rw [lowered]
      exact .portAndPath areDigits _

/-- Before a slash, what follows a host has no points. -/
theorem point_not_mem
    {front here : Text}
    (afterHost : AfterHost (front ++ here))
    (noSlash : '/' ∉ front) :
    '.' ∉ front := by
  have noPointInDigits
      {digits : Text}
      (areDigits : ∀ c ∈ digits, c.isDigit = true) :
      '.' ∉ digits :=
    fun member => absurd (areDigits '.' member) (by decide)
  generalize shape : front ++ here = rest at afterHost
  cases afterHost with
  | nothing =>
      simp_all
  | path path =>
      cases front with
      | nil =>
          simp
      | cons first others =>
          simp_all
  | @port digits areDigits =>
      cases front with
      | nil =>
          simp
      | cons first others =>
          rw [List.cons_append, List.cons_eq_cons] at shape
          obtain ⟨rfl, rfl⟩ := shape
          have noPoint := noPointInDigits areDigits
          simp_all
  | @portAndPath digits areDigits path =>
      cases front with
      | nil =>
          simp
      | cons first others =>
          rw [List.cons_append, List.cons_eq_cons] at shape
          obtain ⟨rfl, shape⟩ := shape
          have noPoint := noPointInDigits areDigits
          rcases List.append_eq_append_iff.mp shape with
              ⟨between, rfl, _⟩ | ⟨between, othersShape, pathShape⟩
          · simp_all
          · cases between with
            | nil =>
                simp_all
            | cons slash more =>
                simp_all

end AfterHost

/-! ## Where the pattern of a domain is found -/

variable {scheme host rest domain name before here : Text}

theorem charReads_domainChar_iff
    {expected : Char}
    (isOne : isDomainChar expected = true)
    {here after : Text} :
    CharReads .ignored .lastLineEnd expected here after ↔
      ∃ c, CaseRule.ignored.Same expected c ∧ here = c :: after := by
  apply charReads_itself_iff
  · rintro rfl
    cases isOne
  · rintro rfl
    cases isOne

/-- A separator is read where a host ends, and not inside of it. -/
theorem exists_charReads_separator_iff
    (nameChars : ∀ c ∈ name, isDomainChar c = true)
    (afterHost : AfterHost rest) :
    (∃ after, CharReads .ignored .lastLineEnd '^' (name ++ rest) after) ↔
      name = [] := by
  simp only [charReads_separator_iff]
  constructor
  · intro reads
    cases name with
    | nil =>
        rfl
    | cons c others =>
        exfalso
        have isOne := nameChars c (by simp)
        rcases reads with
            ⟨_, ⟨separator, separates, shape⟩ | ⟨rfl, nothing | lineFeed⟩⟩
        · have same : c = separator := (List.cons.inj shape).1
          rw [← same, isSeparator_of_isHostChar
            (isHostChar_of_isDomainChar isOne)] at separates
          cases separates
        · cases nothing
        · have same : c = '\n' := (List.cons.inj lineFeed).1
          rw [same] at isOne
          cases isOne
  · rintro rfl
    rcases afterHost.eq_nil_or_cons with
        rfl | ⟨mark, others, rfl, isMark⟩
    · exact ⟨[], Or.inr ⟨rfl, Or.inl rfl⟩⟩
    · refine ⟨others, Or.inl ⟨mark, ?_, rfl⟩⟩
      rcases isMark with rfl | rfl <;> decide

/-- After a domain and its separator, a location goes on as it does after a host. -/
theorem exists_bodyReads_iff
    (domainChars : ∀ c ∈ domain, isDomainChar c = true)
    (nameChars : ∀ c ∈ name, isDomainChar c = true)
    (afterHost : AfterHost rest) :
    (∃ after,
      BodyReads .ignored .lastLineEnd (domain ++ ['^']) (name ++ rest) after) ↔
      name = domain := by
  -- On the domain: what follows a host never is the same as a character of it, so the name cannot end first.
  induction domain generalizing name with
  | nil =>
      simp only [List.nil_append, BodyReads, exists_eq_right]
      exact exists_charReads_separator_iff nameChars afterHost
  | cons expected others inductionHypothesis =>
      have isOne := domainChars expected (by simp)
      have othersChars : ∀ c ∈ others, isDomainChar c = true :=
        fun c member => domainChars c (by simp [member])
      simp only [List.cons_append, BodyReads, charReads_domainChar_iff isOne]
      constructor
      · intro reads
        obtain ⟨after, between, ⟨c, same, shape⟩, readsOthers⟩ := reads
        cases name with
        | nil =>
            exfalso
            rw [List.nil_append] at shape
            rw [shape] at afterHost
            exact afterHost.not_same isOne same
        | cons d more =>
            obtain ⟨rfl, rfl⟩ := List.cons.inj shape
            have equal : d = expected :=
              (same_iff_of_isDomainChar isOne (nameChars d (by simp))).mp same
            have moreShape : more = others :=
              (inductionHypothesis othersChars
                fun c member => nameChars c (by simp [member])).mp
                ⟨after, readsOthers⟩
            rw [equal, moreShape]
      · rintro rfl
        obtain ⟨after, readsOthers⟩ :=
          (inductionHypothesis othersChars othersChars).mpr rfl
        exact
          ⟨after, others ++ rest,
            ⟨expected, (same_iff_of_isDomainChar isOne isOne).mpr rfl, rfl⟩,
            readsOthers⟩

/-- The labels before an anchored one belong to the host. -/
theorem exists_eq_append_of_labels
    (afterHost : AfterHost rest)
    {labels : Text}
    (areLabels : AreLeadingLabels labels)
    (same : host ++ rest = labels ++ here) :
    ∃ name, host = labels ++ name ∧ here = name ++ rest := by
  rcases areLabels with rfl | ⟨names, _, noSlash, rfl⟩
  · exact ⟨host, rfl, same.symm⟩
  · -- Labels that reach beyond the host would put their last point into what follows the host.
    rcases List.append_eq_append_iff.mp same with
        ⟨beyond, labelsShape, restShape⟩ | ⟨name, hostShape, hereShape⟩
    · have noSlashBeyond : '/' ∉ beyond := by
        intro member
        have inLabels : '/' ∈ names ++ ['.'] := by
          rw [labelsShape]
          exact List.mem_append_right host member
        simp [noSlash] at inLabels
      rw [restShape] at afterHost
      have noPoint := afterHost.point_not_mem noSlashBeyond
      rcases List.eq_nil_or_concat beyond with rfl | ⟨front, last, rfl⟩
      · refine ⟨[], ?_, restShape.symm⟩
        rw [labelsShape, List.append_nil, List.append_nil]
      · exfalso
        have isPoint : '.' = last := by
          simpa [← List.append_assoc] using congrArg List.getLast? labelsShape
        apply noPoint
        rw [← isPoint]
        simp
    · exact ⟨name, hostShape, hereShape⟩

/-- What leads to a label of an address is its scheme and two slashes with labels of the host. -/
theorem exists_labels
    (schemeMarks : ∀ c ∈ scheme, isSchemeMark c = true)
    (hostNotSlash : (host ++ rest).head? ≠ some '/')
    (leads : LeadsToLabel before)
    (same : address scheme host rest = before ++ here)
    (hereNotSlash : here.head? ≠ some '/') :
    ∃ labels, AreLeadingLabels labels ∧ host ++ rest = labels ++ here := by
  obtain ⟨otherScheme, slashes, labels, rfl, _, otherMarks, _, areSlashes, areLabels⟩ :=
    leads
  have schemeStops (others : Text) (c : Char) (first : (':' :: others).head? = some c) :
      ¬ isSchemeMark c = true := by
    rw [List.head?_cons, Option.some.injEq] at first
    rw [← first]
    decide
  have afterScheme :
      ['/', '/'] ++ (host ++ rest) = slashes ++ (labels ++ here) := by
    have sameScheme :
        scheme ++ (':' :: (['/', '/'] ++ (host ++ rest))) =
          otherScheme ++ (':' :: (slashes ++ (labels ++ here))) := by
      simpa [address] using same
    have cut :=
      Text.append_inj_of_run schemeMarks otherMarks (schemeStops _)
        (schemeStops _) sameScheme
    exact (List.cons.inj cut.2).2
  have labelsNotSlash : (labels ++ here).head? ≠ some '/' := by
    rcases areLabels with rfl | ⟨names, notEmpty, noSlash, rfl⟩
    · exact hereNotSlash
    · obtain ⟨c, others, rfl⟩ := List.exists_cons_of_ne_nil notEmpty
      rw [List.append_assoc, List.cons_append, List.head?_cons]
      intro isSlash
      exact noSlash (by simp [Option.some.inj isSlash])
  have cut :=
    @Text.append_inj_of_run (· = '/') _ _ _ _ (by simp) areSlashes
      (fun c first isSlash => hostNotSlash (isSlash ▸ first))
      (fun c first isSlash => labelsNotSlash (isSlash ▸ first)) afterScheme
  exact ⟨labels, areLabels, cut.2⟩

/-- What a domain reads does not begin with a slash. -/
theorem head?_ne_slash_of_bodyReads
    (isDomain : ConsistsOf isDomainChar domain)
    {after : Text}
    (reads :
      BodyReads .ignored .lastLineEnd (domain ++ ['^']) here after) :
    here.head? ≠ some '/' := by
  obtain ⟨expected, others, rfl⟩ :=
    List.exists_cons_of_ne_nil isDomain.notEmpty
  have isOne := isDomain.chars expected (by simp)
  obtain ⟨between, readsFirst, _⟩ := reads
  obtain ⟨c, same, rfl⟩ := (charReads_domainChar_iff isOne).mp readsFirst
  intro isSlash
  rw [Option.some.inj isSlash] at same
  exact not_same_of_isMark isOne (by decide) (by decide) same

theorem head?_append_ne_slash
    (isName : ConsistsOf isDomainChar name)
    (others : Text) :
    (name ++ others).head? ≠ some '/' := by
  obtain ⟨c, more, rfl⟩ := List.exists_cons_of_ne_nil isName.notEmpty
  rw [List.cons_append, List.head?_cons]
  intro isSlash
  have isOne := isName.chars c (by simp)
  rw [Option.some.inj isSlash] at isOne
  cases isOne

/-- The shape of a domain's pattern is found in an address whose host is the domain with labels before it. -/
theorem foundIn_of_labels
    (isScheme : ConsistsOf isSchemeMark scheme)
    (isDomain : ConsistsOf isDomainChar domain)
    (afterHost : AfterHost rest)
    {labels : Text}
    (areLabels : AreLeadingLabels labels) :
    Shape.FoundIn .ignored .lastLineEnd
      ⟨.domainLabel, domain ++ ['^'], false⟩
      (address scheme (labels ++ domain) rest) := by
  obtain ⟨after, reads⟩ :=
    (exists_bodyReads_iff isDomain.chars isDomain.chars afterHost).mpr rfl
  refine
    ⟨scheme ++ ([':'] ++ (['/', '/'] ++ labels)), domain ++ rest, after,
      ?_, ?_, reads, nofun⟩
  · simp [address]
  · exact
      ⟨scheme, ['/', '/'], labels, rfl, isScheme.notEmpty, isScheme.chars,
        by simp, by simp, areLabels⟩

/-- The shape of a domain's pattern is found in an address whose host is the domain, or ends with it after a point. -/
theorem foundIn_iff
    (isScheme : ConsistsOf isSchemeMark scheme)
    (isHost : ConsistsOf isDomainChar host)
    (isDomain : ConsistsOf isDomainChar domain)
    (afterHost : AfterHost rest) :
    Shape.FoundIn .ignored .lastLineEnd
        ⟨.domainLabel, domain ++ ['^'], false⟩ (address scheme host rest) ↔
      host = domain ∨
        ∃ names, names ≠ [] ∧ host = names ++ ['.'] ++ domain := by
  constructor
  · intro found
    obtain ⟨before, here, after, location, leads, reads, _⟩ := found
    have hereNotSlash : here.head? ≠ some '/' :=
      head?_ne_slash_of_bodyReads isDomain reads
    obtain ⟨labels, areLabels, sameHost⟩ :=
      exists_labels isScheme.chars (head?_append_ne_slash isHost rest) leads
        location hereNotSlash
    obtain ⟨name, hostShape, rfl⟩ :=
      exists_eq_append_of_labels afterHost areLabels sameHost
    have nameChars : ∀ c ∈ name, isDomainChar c = true := by
      intro c member
      apply isHost.chars
      rw [hostShape]
      exact List.mem_append_right labels member
    have isWhole : name = domain :=
      (exists_bodyReads_iff isDomain.chars nameChars afterHost).mp
        ⟨after, reads⟩
    rw [isWhole] at hostShape
    rcases areLabels with rfl | ⟨names, notEmpty, _, rfl⟩
    · exact Or.inl hostShape
    · exact Or.inr ⟨names, notEmpty, hostShape⟩
  · rintro (rfl | ⟨names, notEmpty, rfl⟩)
    · exact foundIn_of_labels isScheme isDomain afterHost (Or.inl rfl)
    · have noSlash : '/' ∉ names := by
        intro member
        have isOne := isHost.chars '/' (by simp [member])
        cases isOne
      exact
        foundIn_of_labels isScheme isDomain afterHost
          (Or.inr ⟨names, notEmpty, noSlash, rfl⟩)

/-! ## Addresses in lower case -/

/-- What consists of characters consists, in lower case, of their lower-case forms. -/
theorem ConsistsOf.lower
    {upper lowered : Char → Bool}
    (ascii : ∀ c, upper c = true → c.toNat < 0x80)
    (step : ∀ c, upper c = true → lowered c.toLower = true)
    {text : Text}
    (consists : ConsistsOf upper text) :
    ConsistsOf lowered (Text.lower text) := by
  rw [Text.lower_of_ascii fun c member => ascii c (consists.chars c member)]
  refine ⟨?_, ?_⟩
  · simpa using consists.notEmpty
  · intro c member
    obtain ⟨original, inText, rfl⟩ := List.mem_map.mp member
    exact step original (consists.chars original inText)

/-- The parts of an address are lowered on their own, but for letters after the host. -/
theorem exists_lower_address
    (isScheme : ConsistsOf isSchemeChar scheme)
    (isHost : ConsistsOf isHostChar host)
    (rest : Text) :
    ∃ afterCased,
      Text.lower (address scheme host rest) =
        address (Text.lower scheme) (Text.lower host)
          (Text.lowerFrom afterCased rest) := by
  have schemeAscii : ∀ c ∈ scheme, c.toNat < 0x80 :=
    fun c member =>
      toNat_lt_of_isHostChar
        (isHostChar_of_isSchemeChar (isScheme.chars c member))
  have hostAscii : ∀ c ∈ host, c.toNat < 0x80 :=
    fun c member => toNat_lt_of_isHostChar (isHost.chars c member)
  have frontAscii :
      ∀ c ∈ scheme ++ ([':', '/', '/'] ++ host), c.toNat < 0x80 := by
    intro c member
    simp only [List.mem_append] at member
    rcases member with inScheme | isMark | inHost
    · exact schemeAscii c inScheme
    · simp only [List.mem_cons, List.not_mem_nil, or_false, or_self] at isMark
      rcases isMark with rfl | rfl
      · decide
      · decide
    · exact hostAscii c inHost
  obtain ⟨afterCased, lowered⟩ :=
    Text.exists_lowerFrom_append frontAscii false rest
  refine ⟨afterCased, ?_⟩
  rw [Text.lower_of_ascii schemeAscii, Text.lower_of_ascii hostAscii,
    Text.lower, address, address, ← List.append_assoc, ← List.append_assoc,
    List.append_assoc scheme, lowered]
  simp

/-! ## The rule of a domain -/

/-- The rule that the text of a domain's rule stands for. -/
def rule (domain : Text) : UrlRule :=
  UrlRule.ofOptions (text domain)
    (RuleOptions.ofDraft true (text domain) .empty)

/-- The text of a domain's rule is read as that rule. -/
theorem parse_text
    (isDomain : ConsistsOf isDomainChar domain)
    (strict : Bool) :
    Rule.parse strict (text domain) = .ok (.url (rule domain)) := by
  have noDollar : '$' ∉ text domain := by
    intro member
    have inDomain : '$' ∈ domain := by
      simpa [text] using member
    exact absurd (isDomain.chars '$' inDomain) (by decide)
  have noPolicy : Csp.isForbidden [] = false := by
    decide
  have noFault :
      RuleOptions.fault? strict true (text domain) [] = none := by
    simp [RuleOptions.fault?, RuleOptions.combinationFault?,
      OptionDraft.ofSettings, OptionDraft.empty, RuleOptions.isAscii,
      noPolicy]
  have blocking :
      RuleOptions.blockingAndRest (text domain) = (true, text domain) :=
    rfl
  have options :
      RuleOptions.parse strict (text domain) =
        .ok (RuleOptions.ofDraft true (text domain) .empty) := by
    simp only [RuleOptions.parse, blocking,
      OptionClause.split_of_not_mem noDollar, List.map_nil, noFault]
    rfl
  have isRule : UrlRule.ofText strict (text domain) = .ok (rule domain) := by
    rw [UrlRule.ofText, options]
    rfl
  have noContent : ContentParts.ofText? (text domain) = none :=
    rfl
  have textShape : text domain = '|' :: '|' :: (domain ++ ['^']) :=
    rfl
  rw [textShape] at isRule noContent ⊢
  simp [Rule.parse, noContent, isRule]

theorem isLiteralText_text
    (domain : Text) :
    isLiteralText (text domain) = false := by
  have suffix :
      ['^'].isSuffixOf? (text domain) = some (['|', '|'] ++ domain) :=
    List.isSuffixOf?_eq_some_iff_append_eq.mpr rfl
  have lead :
      ['|', '|'].isPrefixOf? (text domain) = some (domain ++ ['^']) :=
    rfl
  rw [isLiteralText, suffix, lead]
  simp [isPlain, isSpecial, text]

/-- The shape of a domain's pattern is the domain with a separator, after a label. -/
theorem ofText_text
    (domain : Text) :
    Shape.ofText (text domain) =
      ⟨.domainLabel, domain ++ ['^'], false⟩ := by
  have last : (text domain).getLast? = some '^' :=
    List.getLast?_eq_some_iff.mpr ⟨['|', '|'] ++ domain, rfl⟩
  have untrimmed : Text.trim (· = '*') (text domain) = text domain := by
    simp [Text.trim, text]
  have noBar : ¬ ['^', '|'].isSuffixOf (text domain) = true := by
    rw [isSuffixOf_pair_iff, last]
    simp
  have bodyEnd : ['|'].isSuffixOf? (domain ++ ['^']) = none := by
    simp [isSuffixOf?_singleton]
  have textShape : text domain = '|' :: '|' :: (domain ++ ['^']) :=
    rfl
  rw [Shape.ofText, core, untrimmed, if_neg noBar, textShape,
    Shape.ofCore, Shape.ofAnchored, bodyEnd]

/-- The rule of a domain is active in all documents. -/
theorem isActive_rule
    (domain : Text)
    (documentDomain sitekey : Option Text) :
    (rule domain).restriction.isActive documentDomain sitekey = true := by
  have unrestricted : (rule domain).restriction = ⟨.empty, none⟩ := by
    rfl
  have noDecision (name : Text) :
      DomainMap.decision? .empty name = none := by
    rw [DomainMap.decision?, List.findSome?_eq_none_iff]
    intro suffix _
    rfl
  rw [unrestricted, Restriction.isActive]
  have noDecisionAtAll :
      Restriction.decisionFor? ⟨.empty, none⟩ documentDomain = none := by
    cases documentDomain with
    | none =>
        rfl
    | some name =>
        cases name with
        | nil =>
            rfl
        | cons c others =>
            exact noDecision (c :: others)
  rw [noDecisionAtAll]
  cases sitekey <;> rfl

/-- The types that the rule of a domain applies to are those of requests with the bit of some resource. -/
theorem appliesToTypes_rule_iff
    {types : TypeMask} :
    (rule domain).appliesToTypes types = true ↔
      ∃ position < TypeMask.resourceBits, types.HasBit position := by
  have contentTypes : (rule domain).contentTypes = .resources :=
    rfl
  simp only [UrlRule.appliesToTypes_iff, contentTypes,
    TypeMask.hasBit_resources_iff]
  constructor
  · intro shared
    obtain ⟨position, _, bit, isResource⟩ := shared
    exact ⟨position, isResource, bit⟩
  · intro some
    obtain ⟨position, isResource, bit⟩ := some
    refine ⟨position, ?_, bit, isResource⟩
    rintro rfl
    exact absurd isResource (by decide)

/--
The text of a domain's rule is that of a blocking rule, which matches the addresses of hosts that are the domain
or have it after a label, for requests with the bit of some resource.
-/
theorem matchesRequest_iff_host
    (isDomain : ConsistsOf isDomainChar domain)
    (isScheme : ConsistsOf isSchemeChar scheme)
    (isHost : ConsistsOf isHostChar host)
    (afterHost : AfterHost rest)
    (strict : Bool)
    (documentDomain : Option Text)
    (types : TypeMask)
    (sitekey : Option Text) :
    ∃ rule : UrlRule,
      Rule.parse strict (text domain) = .ok (.url rule) ∧
        rule.action = .block ∧
        (rule.matchesRequest ⟨address scheme host rest, documentDomain⟩
            types sitekey = true ↔
          (∃ position < TypeMask.resourceBits, types.HasBit position) ∧
            (Text.lower host = domain ∨
              ∃ names, names ≠ [] ∧
                Text.lower host = names ++ ['.'] ++ domain)) := by
  refine ⟨rule domain, parse_text isDomain strict, rfl, ?_⟩
  obtain ⟨afterCased, lowered⟩ :=
    exists_lower_address isScheme isHost rest
  have lowerScheme : ConsistsOf isSchemeMark (Text.lower scheme) :=
    isScheme.lower
      (fun c isOne =>
        toNat_lt_of_isHostChar (isHostChar_of_isSchemeChar isOne))
      fun c isOne => isSchemeMark_toLower isOne
  have lowerHost : ConsistsOf isDomainChar (Text.lower host) :=
    isHost.lower (fun c isOne => toNat_lt_of_isHostChar isOne)
      fun c isOne => isDomainChar_toLower isOne
  have found :
      (rule domain).pattern.matchesRequest
          ⟨address scheme host rest, documentDomain⟩ = true ↔
        Text.lower host = domain ∨
          ∃ names, names ≠ [] ∧
            Text.lower host = names ++ ['.'] ++ domain := by
    have pattern : (rule domain).pattern = ofText (text domain) false :=
      rfl
    have location :
        (ofText (text domain) false).comparedLocation
            ⟨address scheme host rest, documentDomain⟩ =
          Text.lower (address scheme host rest) := by
      simp [comparedLocation, ofText, isLiteralText_text,
        Request.locationLower]
    rw [pattern, Pattern.matchesRequest,
      foundIn_iff_shape (isLiteralText_text domain), location, lowered,
      ofText_text]
    exact foundIn_iff lowerScheme lowerHost isDomain
      (afterHost.lowerFrom afterCased)
  have anyParty :
      (rule domain).appliesToParty
        ⟨address scheme host rest, documentDomain⟩ = true :=
    rfl
  rw [UrlRule.matchesRequest, isActive_rule, anyParty, Bool.true_and,
    Bool.true_and, Bool.and_eq_true, appliesToTypes_rule_iff, found]

/-- The rule of a domain matches an address of one of its subdomains, written with capital letters and a port. -/
theorem matchesRequest_subdomain :
    ∃ rule : UrlRule,
      Rule.parse true (text ['a', '.', 'b']) = .ok (.url rule) ∧
        rule.matchesRequest
          ⟨address ['w', 's'] ['X', '.', 'A', '.', 'b'] [':', '8', '/'], none⟩
          (.ofType .script) none = true := by
  have isDomain : ConsistsOf isDomainChar ['a', '.', 'b'] :=
    ⟨by simp, by simp [isDomainChar]⟩
  have isScheme : ConsistsOf isSchemeChar ['w', 's'] :=
    ⟨by simp, by simp [isSchemeChar]⟩
  have isHost : ConsistsOf isHostChar ['X', '.', 'A', '.', 'b'] :=
    ⟨by simp, by simp [isHostChar]⟩
  have areDigits : ∀ c ∈ ['8'], c.isDigit = true := by
    simp
  obtain ⟨rule, parsed, _, matchesIff⟩ :=
    matchesRequest_iff_host isDomain isScheme isHost
      (.portAndPath areDigits []) true none (.ofType .script) none
  refine ⟨rule, parsed, matchesIff.mpr ⟨⟨1, by decide, by simp; rfl⟩, ?_⟩⟩
  exact Or.inr ⟨['x'], by simp, by decide +kernel⟩

/-- A host that begins with a point is matched by no rule of the domain after that point. -/
theorem not_matchesRequest_of_empty_label :
    ∃ rule : UrlRule,
      Rule.parse false (text ['x']) = .ok (.url rule) ∧
        rule.matchesRequest
          ⟨address ['h', 't', 't', 'p'] ['.', 'x'] ['/'], none⟩
          .resources none = false ∧
        Text.lower ['.', 'x'] = ['.'] ++ ['x'] := by
  exact ⟨rule ['x'], by decide +kernel, by decide +kernel, by decide +kernel⟩

end DomainRule

end AdFilter
