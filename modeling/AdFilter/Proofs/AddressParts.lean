import AdFilter.Proofs.LetterCase
import AdFilter.Proofs.TextPieces
import AdFilter.Text.Word
import AdFilter.Url.Host

namespace AdFilter

/-!
# The host among the parts of an address

The host of an address does not depend on what stands around it.  User information may hold colons, percent signs and further
`@`, and what follows the authority may look like another address, but neither is ever taken for the host, and so neither
has a say in whose party a request belongs to.
-/

namespace Url

/-- Whether a character of ASCII may stand in an authority without brackets. -/
def isAuthorityChar (c : Char) : Bool :=
  c.toNat < 0x80 && c ∉ ['/', '?', '#', '[', ']', '\t', '\r', '\n']

/-- Whether a character of ASCII may stand in a host without brackets. -/
def isHostChar (c : Char) : Bool :=
  isAuthorityChar c && c ∉ ['@', ':', '%']

/--
The parts of an address: a scheme, a host, user information and a port if there are any, and a rest that is empty or begins
where the authority ends.  The digits of the port may be those of any script.
-/
structure Parts where
  scheme : Text
  userInfo : Option Text
  host : Text
  port : Option Text
  rest : Text
  beginsWithLetter : ∃ letter ∈ scheme.head?, letter.isAlpha = true
  schemeChars : ∀ c ∈ scheme, c.isAlphanum = true ∨ c ∈ ['+', '-', '.']
  userInfoChars : ∀ info ∈ userInfo, ∀ c ∈ info, isAuthorityChar c = true
  hostChars : ∀ c ∈ host, isHostChar c = true
  portDigits : ∀ digits ∈ port, ∀ c ∈ digits, Text.isDecimalDigit c = true
  restEnds : ∀ c ∈ rest.head?, c ∈ ['/', '?', '#']

namespace Parts

/-- The user information with the sign after it, if there is any. -/
def writtenUserInfo (parts : Parts) : Text :=
  match parts.userInfo with
  | none => []
  | some info => info ++ ['@']

/-- The port with the colon before it, if there is one. -/
def writtenPort (parts : Parts) : Text :=
  match parts.port with
  | none => []
  | some digits => ':' :: digits

/-- The host with the port, if there is one. -/
def hostAndPort (parts : Parts) : Text :=
  parts.host ++ parts.writtenPort

/-- All that stands between the slashes after the scheme and the rest. -/
def authority (parts : Parts) : Text :=
  parts.writtenUserInfo ++ parts.hostAndPort

/-- The address that the parts make up. -/
def text (parts : Parts) : Text :=
  parts.scheme ++ ':' :: '/' :: '/' :: (parts.authority ++ parts.rest)

end Parts

/-! ## Characters -/

variable {c : Char} {scheme front rest : Text}

/-- A character of an authority that is no bracket, neither ends the authority nor is removed, and cannot be misread. -/
structure IsOrdinary (c : Char) : Prop where
  kept : isRemoved c = false
  inside : endsAuthority c = false
  notOpening : c ≠ '['
  notClosing : c ≠ ']'
  unambiguous : isDelimiterLookalike c = false

theorem isOrdinary_of_isAuthorityChar
    (isOne : isAuthorityChar c = true) :
    IsOrdinary c := by
  have ascii : c.toNat < 0x80 := by
    simpa using (Bool.and_eq_true_iff.mp isOne).1
  have ordinary :
      isRemoved c = false ∧ endsAuthority c = false ∧ c ≠ '[' ∧ c ≠ ']' ∧
        isDelimiterLookalike c = false :=
    ascii_of_forall_point
      (fun c =>
        isAuthorityChar c = true →
          isRemoved c = false ∧ endsAuthority c = false ∧ c ≠ '[' ∧
            c ≠ ']' ∧ isDelimiterLookalike c = false)
      (by decide +kernel) ascii isOne
  obtain ⟨kept, inside, notOpening, notClosing, unambiguous⟩ := ordinary
  exact ⟨kept, inside, notOpening, notClosing, unambiguous⟩

theorem isAuthorityChar_of_isHostChar
    (isOne : isHostChar c = true) :
    isAuthorityChar c = true :=
  (Bool.and_eq_true_iff.mp isOne).1

theorem isDelimiterLookalike_of_isDecimalDigit
    (digit : Text.isDecimalDigit c = true) :
    isDelimiterLookalike c = false := by
  have noDigits :
      ∀ point ∈ delimiterLookalikes,
        Text.isDecimalDigit (Char.ofNat point) = false := by
    decide +kernel
  by_contra lookalike
  have listed : c.toNat ∈ delimiterLookalikes := by
    simpa [isDelimiterLookalike] using lookalike
  have noDigit := noDigits c.toNat listed
  rw [Char.ofNat_toNat, digit] at noDigit
  cases noDigit

/-- A decimal digit is none of the marks around a port. -/
theorem ne_of_isDecimalDigit
    (mark : Char)
    (digit : Text.isDecimalDigit c = true)
    (noDigit : Text.isDecimalDigit mark = false) :
    c ≠ mark := by
  rintro rfl
  rw [noDigit] at digit
  cases digit

theorem isOrdinary_of_isDecimalDigit
    (digit : Text.isDecimalDigit c = true) :
    IsOrdinary c where
  kept := by
    have tab := ne_of_isDecimalDigit '\t' digit rfl
    have carriageReturn := ne_of_isDecimalDigit '\r' digit rfl
    have lineFeed := ne_of_isDecimalDigit '\n' digit rfl
    simp [isRemoved, tab, carriageReturn, lineFeed]
  inside := by
    have slash := ne_of_isDecimalDigit '/' digit rfl
    have query := ne_of_isDecimalDigit '?' digit rfl
    have fragment := ne_of_isDecimalDigit '#' digit rfl
    simp [endsAuthority, slash, query, fragment]
  notOpening := ne_of_isDecimalDigit '[' digit rfl
  notClosing := ne_of_isDecimalDigit ']' digit rfl
  unambiguous := isDelimiterLookalike_of_isDecimalDigit digit

/-! ## The steps of the reader -/

theorem withoutScheme_append
    (isOne : isScheme scheme = true)
    (noColon : ':' ∉ scheme) :
    withoutScheme (scheme ++ ':' :: rest) = rest := by
  have beforeColon := Text.forall_ne_of_not_mem noColon
  have toColon :
      (scheme ++ ':' :: rest).takeWhile (· ≠ ':') = scheme :=
    Text.takeWhile_append_of_stops beforeColon (by simp)
  have fromColon :
      (scheme ++ ':' :: rest).dropWhile (· ≠ ':') = ':' :: rest := by
    rw [List.dropWhile_append_of_pos beforeColon,
      List.dropWhile_cons_of_neg (by decide)]
  rw [withoutScheme, fromColon]
  dsimp only
  rw [toColon, if_pos isOne]

/-- An authority ends where the rest of the address begins. -/
theorem authority?_append
    {authority : Text}
    (isOne : isScheme scheme = true)
    (noColon : ':' ∉ scheme)
    (inside : ∀ c ∈ authority, endsAuthority c = false)
    (stops : ∀ c ∈ rest.head?, endsAuthority c = true) :
    authority? (scheme ++ ':' :: '/' :: '/' :: (authority ++ rest)) =
      some authority := by
  have upToRest :
      (authority ++ rest).takeWhile (fun c => !endsAuthority c) =
        authority := by
    apply Text.takeWhile_append_of_stops
    · simpa using inside
    · simpa using stops
  rw [authority?, withoutScheme_append isOne noColon]
  exact congrArg some upToRest

theorem afterUserInfo_of_not_mem
    (noSign : '@' ∉ rest) :
    afterUserInfo rest = rest := by
  have isRest : ∀ c ∈ rest.reverse, decide (c ≠ '@') = true :=
    Text.forall_ne_of_not_mem (by simpa using noSign)
  rw [afterUserInfo, List.takeWhile_eq_self_iff.mpr isRest,
    List.reverse_reverse]

/-- User information ends at the last sign, whatever signs are in it. -/
theorem afterUserInfo_append
    (noSign : '@' ∉ rest) :
    afterUserInfo (front ++ '@' :: rest) = rest := by
  have isRest : ∀ c ∈ rest.reverse, decide (c ≠ '@') = true :=
    Text.forall_ne_of_not_mem (by simpa using noSign)
  have backToSign :
      (rest.reverse ++ '@' :: front.reverse).takeWhile (· ≠ '@') =
        rest.reverse :=
    Text.takeWhile_append_of_stops isRest (by simp)
  rw [afterUserInfo, List.reverse_append, List.reverse_cons,
    List.append_assoc, List.singleton_append, backToSign,
    List.reverse_reverse]

/-- A URL that begins with a letter is read as it is, without the characters that are removed everywhere. -/
theorem cleaned_of_letter
    {url : Text}
    (letterInFront : ∃ letter ∈ url.head?, letter.isAlpha = true) :
    cleaned url = url.filter fun c => !isRemoved c := by
  obtain ⟨letter, isHead, isLetter⟩ := letterInFront
  obtain ⟨others, rfl⟩ := List.head?_eq_some_iff.mp isHead
  have noBlank : ¬ isControlOrSpace letter = true := by
    have ascii := toNat_lt_of_isAlpha isLetter
    exact
      ascii_of_forall_point
        (fun c => c.isAlpha = true → ¬ isControlOrSpace c = true)
        (by decide) ascii isLetter
  rw [cleaned, List.dropWhile_cons_of_neg noBlank]

/-! ## The parts -/

namespace Parts

variable (parts : Parts)

theorem isScheme_scheme :
    isScheme parts.scheme = true := by
  obtain ⟨letter, isHead, isLetter⟩ := parts.beginsWithLetter
  obtain ⟨others, shape⟩ := List.head?_eq_some_iff.mp isHead
  have areChars : parts.scheme.all isSchemeChar = true := by
    rw [List.all_eq_true]
    intro c member
    simpa [isSchemeChar, or_assoc] using parts.schemeChars c member
  rw [shape] at areChars ⊢
  rw [isScheme, isLetter, areChars]
  rfl

theorem colon_not_mem_scheme :
    ':' ∉ parts.scheme := by
  intro member
  have isChar := parts.schemeChars ':' member
  revert isChar
  decide

theorem not_mem_host
    {mark : Char}
    (noHostChar : isHostChar mark = false) :
    mark ∉ parts.host :=
  Text.not_mem_of_forall parts.hostChars noHostChar

theorem isOrdinary_of_mem_authority
    {c : Char}
    (member : c ∈ parts.authority) :
    IsOrdinary c := by
  have ofMark
      (isOne : isAuthorityChar c = true ∨ Text.isDecimalDigit c = true) :
      IsOrdinary c := by
    rcases isOne with isChar | isDigit
    · exact isOrdinary_of_isAuthorityChar isChar
    · exact isOrdinary_of_isDecimalDigit isDigit
  apply ofMark
  simp only [authority, hostAndPort, List.mem_append] at member
  rcases member with inUserInfo | inHost | inPort
  · left
    cases userInfo : parts.userInfo with
    | none =>
        simp [writtenUserInfo, userInfo] at inUserInfo
    | some info =>
        rw [writtenUserInfo, userInfo] at inUserInfo
        rcases List.mem_append.mp inUserInfo with inInfo | isSign
        · exact parts.userInfoChars info userInfo c inInfo
        · rw [List.mem_singleton.mp isSign]
          decide
  · left
    exact isAuthorityChar_of_isHostChar (parts.hostChars c inHost)
  · cases port : parts.port with
    | none =>
        simp [writtenPort, port] at inPort
    | some digits =>
        rw [writtenPort, port] at inPort
        rcases List.mem_cons.mp inPort with isColon | inDigits
        · left
          rw [isColon]
          decide
        · right
          exact parts.portDigits digits port c inDigits

/-- The sign after user information is neither in the host nor in the port. -/
theorem sign_not_mem_hostAndPort :
    '@' ∉ parts.hostAndPort := by
  intro member
  rcases List.mem_append.mp member with inHost | inPort
  · exact parts.not_mem_host (by decide) inHost
  · cases port : parts.port with
    | none =>
        simp [writtenPort, port] at inPort
    | some digits =>
        rw [writtenPort, port] at inPort
        rcases List.mem_cons.mp inPort with isColon | inDigits
        · exact absurd isColon (by decide)
        · exact
            Text.not_mem_of_forall (parts.portDigits digits port)
              (by decide) inDigits

theorem afterUserInfo_authority :
    afterUserInfo parts.authority = parts.hostAndPort := by
  cases userInfo : parts.userInfo with
  | none =>
      rw [authority, writtenUserInfo, userInfo]
      exact afterUserInfo_of_not_mem parts.sign_not_mem_hostAndPort
  | some info =>
      rw [authority, writtenUserInfo, userInfo]
      dsimp only
      rw [List.append_assoc, List.singleton_append]
      exact afterUserInfo_append parts.sign_not_mem_hostAndPort

theorem bracketsAreSound_authority :
    bracketsAreSound parts.authority = true := by
  have noOpening : parts.authority.elem '[' = false := by
    rw [Bool.eq_false_iff, ne_eq, List.elem_iff]
    exact fun member =>
      (parts.isOrdinary_of_mem_authority member).notOpening rfl
  have noClosing : parts.authority.elem ']' = false := by
    rw [Bool.eq_false_iff, ne_eq, List.elem_iff]
    exact fun member =>
      (parts.isOrdinary_of_mem_authority member).notClosing rfl
  rw [bracketsAreSound, noOpening, noClosing]

theorem any_isDelimiterLookalike_authority :
    parts.authority.any isDelimiterLookalike = false := by
  rw [List.any_eq_false]
  intro c member
  rw [(parts.isOrdinary_of_mem_authority member).unambiguous]
  exact Bool.false_ne_true

/-- The text of the host is what stands between user information and port. -/
theorem hostText_authority :
    hostText parts.authority = parts.host := by
  have noBracket : ¬ parts.hostAndPort.elem '[' = true := by
    rw [List.elem_iff]
    intro member
    have inAuthority : '[' ∈ parts.authority :=
      List.mem_append_right _ member
    exact (parts.isOrdinary_of_mem_authority inAuthority).notOpening rfl
  have noColon : ':' ∉ parts.host :=
    parts.not_mem_host (by decide)
  have stops : ∀ c ∈ parts.writtenPort.head?, decide (c ≠ ':') = false := by
    cases port : parts.port <;> simp [writtenPort, port]
  rw [hostText, afterUserInfo_authority, if_neg noBracket]
  exact Text.takeWhile_append_of_stops (Text.forall_ne_of_not_mem noColon) stops

theorem isRemoved_of_mem_scheme
    {c : Char}
    (member : c ∈ parts.scheme) :
    isRemoved c = false := by
  have isChar := parts.schemeChars c member
  by_contra removed
  simp only [isRemoved, Bool.not_eq_false, Bool.or_eq_true,
    decide_eq_true_eq] at removed
  rcases removed with (rfl | rfl) | rfl
  · revert isChar
    decide
  · revert isChar
    decide
  · revert isChar
    decide

/-- Characters are removed from the rest only. -/
theorem cleaned_text :
    cleaned parts.text =
      parts.scheme ++ ':' :: '/' :: '/' ::
        (parts.authority ++ parts.rest.filter fun c => !isRemoved c) := by
  have letterInFront :
      ∃ letter ∈ parts.text.head?, letter.isAlpha = true := by
    obtain ⟨letter, isHead, isLetter⟩ := parts.beginsWithLetter
    obtain ⟨others, shape⟩ := List.head?_eq_some_iff.mp isHead
    exact ⟨letter, by simp [text, shape], isLetter⟩
  have schemeKept :
      parts.scheme.filter (fun c => !isRemoved c) = parts.scheme := by
    rw [List.filter_eq_self]
    intro c member
    rw [parts.isRemoved_of_mem_scheme member]
    rfl
  have authorityKept :
      parts.authority.filter (fun c => !isRemoved c) = parts.authority := by
    rw [List.filter_eq_self]
    intro c member
    rw [(parts.isOrdinary_of_mem_authority member).kept]
    rfl
  have marksKept :
      [':', '/', '/'].filter (fun c => !isRemoved c) = [':', '/', '/'] := by
    decide
  have inPieces :
      parts.text =
        parts.scheme ++ ([':', '/', '/'] ++ (parts.authority ++ parts.rest)) :=
    rfl
  rw [cleaned_of_letter letterInFront, inPieces, List.filter_append,
    List.filter_append, List.filter_append, schemeKept, marksKept,
    authorityKept]
  rfl

theorem authority?_cleaned_text :
    authority? (cleaned parts.text) = some parts.authority := by
  have inside : ∀ c ∈ parts.authority, endsAuthority c = false :=
    fun c member => (parts.isOrdinary_of_mem_authority member).inside
  have stops :
      ∀ c ∈ (parts.rest.filter fun c => !isRemoved c).head?,
        endsAuthority c = true := by
    have restEnds := parts.restEnds
    cases shape : parts.rest with
    | nil =>
        simp
    | cons mark others =>
        rw [shape] at restEnds
        have isMark : mark ∈ ['/', '?', '#'] := restEnds mark rfl
        have marksEnd :
            ∀ mark ∈ ['/', '?', '#'],
              isRemoved mark = false ∧ endsAuthority mark = true := by
          simp [isRemoved, endsAuthority]
        obtain ⟨kept, ends⟩ := marksEnd mark isMark
        rw [List.filter_cons_of_pos (by rw [kept]; rfl), List.head?_cons]
        simpa using ends
  rw [cleaned_text]
  exact authority?_append parts.isScheme_scheme parts.colon_not_mem_scheme
    inside stops

/-- The host of an address is that of its parts, in lower case. -/
theorem host_text :
    Url.host parts.text = Text.lower parts.host := by
  have noZone : ∀ c ∈ parts.host, decide (c ≠ '%') = true :=
    Text.forall_ne_of_not_mem (parts.not_mem_host (by decide))
  rw [Url.host, authority?_cleaned_text]
  dsimp only
  rw [bracketsAreSound_authority, any_isDelimiterLookalike_authority,
    hostText_authority, lowerHost, List.takeWhile_eq_self_iff.mpr noZone,
    List.dropWhile_eq_nil_iff.mpr noZone, List.append_nil]
  rfl

end Parts

/-- Addresses with the same host are of the same party for every page. -/
theorem isThirdParty_eq_of_host_eq
    {first second : Text}
    (same : host first = host second)
    (documentDomain : Text) :
    isThirdParty first documentDomain = isThirdParty second documentDomain := by
  unfold isThirdParty
  rw [same]

/--
The host of an address is the lower-case form of the host that it was made of.  So addresses with the same host in any letter
case are of the same party for every page, whatever their schemes, user information, ports and rests are.
-/
theorem host_of_parts
    (parts : Parts) :
    host parts.text = Text.lower parts.host ∧
      ∀ other : Parts,
        Text.lower other.host = Text.lower parts.host →
        ∀ documentDomain,
          isThirdParty other.text documentDomain =
            isThirdParty parts.text documentDomain := by
  refine ⟨parts.host_text, ?_⟩
  intro other sameHost documentDomain
  apply isThirdParty_eq_of_host_eq
  rw [parts.host_text, other.host_text, sameHost]

/-- Neither what looks like a host in front of a sign nor what looks like another address in the rest is taken for the host. -/
theorem host_of_parts_in_disguise :
    ∃ parts other : Parts,
      parts.text = "ftp+x://b.c:8@d%@Ads.X:80?u=http://b.c@y".toList ∧
        other.text = "http://aDS.x".toList ∧
        Text.lower other.host = Text.lower parts.host ∧
        host parts.text = "ads.x".toList ∧
        ∀ documentDomain,
          isThirdParty other.text documentDomain =
            isThirdParty parts.text documentDomain := by
  let parts : Parts :=
    { scheme := "ftp+x".toList
      userInfo := some "b.c:8@d%".toList
      host := "Ads.X".toList
      port := some "80".toList
      rest := "?u=http://b.c@y".toList
      beginsWithLetter := ⟨'f', rfl, rfl⟩
      schemeChars := by simp
      userInfoChars := by simp [isAuthorityChar]
      hostChars := by simp [isHostChar, isAuthorityChar]
      portDigits := by simp [Text.isDecimalDigit]
      restEnds := by simp }
  let other : Parts :=
    { scheme := "http".toList
      userInfo := none
      host := "aDS.x".toList
      port := none
      rest := []
      beginsWithLetter := ⟨'h', rfl, rfl⟩
      schemeChars := by simp
      userInfoChars := nofun
      hostChars := by simp [isHostChar, isAuthorityChar]
      portDigits := nofun
      restEnds := nofun }
  have sameHost : Text.lower other.host = Text.lower parts.host := by
    decide +kernel
  have lowered : Text.lower parts.host = "ads.x".toList := by
    decide +kernel
  obtain ⟨hostShape, sameParty⟩ := host_of_parts parts
  exact
    ⟨parts, other, rfl, rfl, sameHost, hostShape.trans lowered,
      sameParty other sameHost⟩

end Url

end AdFilter
