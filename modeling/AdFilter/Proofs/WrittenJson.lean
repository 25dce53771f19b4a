import AdFilter.Json.Parser
import AdFilter.Json.Printer
import AdFilter.Proofs.LetterCase
import AdFilter.Proofs.Numerals

namespace AdFilter

/-!
# The tokens of written JSON values

A value that is written in either layout is scanned as the tokens of its parts.  Marks, blanks and strings end by themselves,
while a word goes on as long as characters of words follow, so that what follows a number or a name has to begin with
something else.  In a written value it always does.
-/

namespace JsonToken

variable {c : Char} {text front back word : Text} {tokens firstTokens secondTokens : List JsonToken}

/-! ## Scanning piece by piece -/

/-- A piece of a text is scanned as tokens, whatever follows it. -/
def Scans (text : Text) (tokens : List JsonToken) : Prop :=
  ∀ rest, scan (text ++ rest) = tokens ++ scan rest

/-- A piece of a text is scanned as tokens, if no character of a word follows it. -/
def ScansAsWord (text : Text) (tokens : List JsonToken) : Prop :=
  ∀ rest, (∀ c ∈ rest.head?, isWordChar c = false) →
    scan (text ++ rest) = tokens ++ scan rest

/-- A text begins with a character that ends a word. -/
def EndsWord (text : Text) : Prop :=
  ∃ c ∈ text.head?, isWordChar c = false

theorem Scans.asWord
    (scans : Scans text tokens) :
    ScansAsWord text tokens :=
  fun rest _ => scans rest

theorem Scans.append
    (first : Scans front firstTokens)
    (second : Scans back secondTokens) :
    Scans (front ++ back) (firstTokens ++ secondTokens) := by
  intro rest
  rw [List.append_assoc, first, second, List.append_assoc]

theorem Scans.append_word
    (first : Scans front firstTokens)
    (second : ScansAsWord back secondTokens) :
    ScansAsWord (front ++ back) (firstTokens ++ secondTokens) := by
  intro rest stops
  rw [List.append_assoc, first, second rest stops, List.append_assoc]

/-- A word ends where something else begins. -/
theorem ScansAsWord.append
    (first : ScansAsWord front firstTokens)
    (second : Scans back secondTokens)
    (ends : EndsWord back) :
    Scans (front ++ back) (firstTokens ++ secondTokens) := by
  intro rest
  obtain ⟨c, isHead, noWord⟩ := ends
  have stops : ∀ d ∈ (back ++ rest).head?, isWordChar d = false := by
    rw [List.head?_append, Option.mem_def.mp isHead]
    simpa using noWord
  rw [List.append_assoc, first _ stops, second, List.append_assoc]

theorem scans_nil :
    Scans [] [] :=
  fun _ => rfl

theorem scans_singleton
    (atChar : atChar? c = some (tokens, .nothing)) :
    Scans [c] tokens := by
  intro rest
  rw [scan, List.singleton_append, scanFrom, atChar, scan]

theorem scans_lineBreak
    (layout : Json.Layout)
    (depth : Nat) :
    Scans (layout.lineBreak depth) [] := by
  cases layout with
  | singleLine =>
      exact scans_nil
  | indented width =>
      have spaces (count : Nat) : Scans (List.replicate count ' ') [] := by
        induction count with
        | zero =>
            exact scans_nil
        | succ count inductionHypothesis =>
            exact (scans_singleton (c := ' ') rfl).append inductionHypothesis
      exact (scans_singleton (c := '\n') rfl).append (spaces _)

/-! ## Words -/

theorem atChar?_of_isWordChar
    (isOne : isWordChar c = true) :
    atChar? c = some ([], .word [c]) := by
  have noBlank : isBlank c = false := by
    by_contra blank
    simp only [isBlank, Bool.not_eq_false, Bool.or_eq_true,
      decide_eq_true_eq] at blank
    rcases blank with ((rfl | rfl) | rfl) | rfl <;> cases isOne
  unfold atChar?
  split
  -- None of the seven marks that stand for themselves belongs to a word.
  iterate 7 cases isOne
  rw [noBlank, isOne]
  rfl

theorem scanFrom_word_append
    (read : Text)
    (areChars : ∀ c ∈ word, isWordChar c = true)
    (rest : Text) :
    scanFrom (.word read) (word ++ rest) =
      scanFrom (.word (word.reverse ++ read)) rest := by
  induction word generalizing read with
  | nil =>
      rfl
  | cons c others inductionHypothesis =>
      have first : isWordChar c = true := areChars c List.mem_cons_self
      have later : ∀ c ∈ others, isWordChar c = true :=
        fun c member => areChars c (List.mem_cons_of_mem _ member)
      rw [List.cons_append, scanFrom, if_pos first,
        inductionHypothesis _ later]
      simp

theorem scanFrom_word_of_stops
    (read : Text)
    {rest : Text}
    (stops : ∀ c ∈ rest.head?, isWordChar c = false) :
    scanFrom (.word read) rest = ofWord read.reverse :: scan rest := by
  cases rest with
  | nil =>
      rw [scanFrom, scan, scanFrom]
  | cons c others =>
      have noWord : ¬ isWordChar c = true := by
        simp [stops c rfl]
      rw [scanFrom, if_neg noWord, scan, scanFrom]
      cases atChar? c <;> rfl

theorem scansAsWord_ofWord
    (areChars : ∀ c ∈ word, isWordChar c = true)
    (notEmpty : word ≠ []) :
    ScansAsWord word [ofWord word] := by
  intro rest stops
  obtain ⟨first, others, rfl⟩ := List.exists_cons_of_ne_nil notEmpty
  have firstIsOne : isWordChar first = true :=
    areChars first List.mem_cons_self
  have othersAre : ∀ c ∈ others, isWordChar c = true :=
    fun c member => areChars c (List.mem_cons_of_mem _ member)
  rw [scan, List.cons_append, scanFrom, atChar?_of_isWordChar firstIsOne]
  dsimp only
  rw [scanFrom_word_append _ othersAre, scanFrom_word_of_stops _ stops]
  simp

/-- A word that is read as a value is not empty. -/
theorem scansAsWord_of_ofWord
    {value : Json}
    (areChars : ∀ c ∈ word, isWordChar c = true)
    (reads : ofWord word = .leaf value) :
    ScansAsWord word [.leaf value] := by
  rw [← reads]
  apply scansAsWord_ofWord areChars
  rintro rfl
  cases reads

/-! ## Integers -/

variable {number : Nat}

/-- The names among the words have letters. -/
theorem ofWord_of_noLetter
    (noLetter : ∀ c ∈ word, c.isAlpha = false) :
    ofWord word = JsonToken.number word := by
  have noName (name : Text) (letter : Char) (isLetter : letter.isAlpha = true)
      (member : letter ∈ name) : word ≠ name := by
    rintro rfl
    rw [noLetter letter member] at isLetter
    cases isLetter
  have noNull := noName "null".toList 'n' rfl (by simp)
  have noTrue := noName "true".toList 't' rfl (by simp)
  have noFalse := noName "false".toList 'f' rfl (by simp)
  have noNaN := noName "NaN".toList 'N' rfl (by simp)
  have noInfinity := noName "Infinity".toList 'I' rfl (by simp)
  have noNegative := noName "-Infinity".toList 'I' rfl (by simp)
  rw [ofWord, if_neg noNull, if_neg noTrue, if_neg noFalse,
    if_neg (by simp only [not_or]; exact ⟨noNaN, noInfinity, noNegative⟩)]

theorem isDigit_of_mem_toDigits
    (member : c ∈ Nat.toDigits 10 number) :
    c.isDigit = true :=
  Nat.isDigit_of_mem_toDigits (by decide) (by decide) member

theorem isWholePart_toDigits
    (number : Nat) :
    isWholePart (Nat.toDigits 10 number) = true := by
  have areDigits : (Nat.toDigits 10 number).all Char.isDigit = true :=
    List.all_eq_true.mpr fun c member => isDigit_of_mem_toDigits member
  have noNeedlessZero :
      Nat.toDigits 10 number = ['0'] ∨
        (Nat.toDigits 10 number).head? ≠ some '0' := by
    rcases Nat.eq_zero_or_pos number with rfl | positive
    · exact Or.inl (Nat.toDigits_zero 10)
    · exact Or.inr (Text.head?_toDigits_of_pos positive)
  simp [isWholePart, Nat.toDigits_ne_nil, areDigits, noNeedlessZero]

/-- A word that is an integer apart from a sign stands for that integer, unless it has too many digits. -/
theorem number_of_withoutMinus
    (unsigned : withoutMinus word = Nat.toDigits 10 number) :
    JsonToken.number word =
      match Numeral.read (Nat.toDigits 10 number) with
      | .error failure => .refused failure
      | .ok magnitude =>
          .leaf
            (.integer
              (if Nat.toDigits 10 number = word then magnitude
                else -magnitude)) := by
  have allDigits :
      ∀ c ∈ Nat.toDigits 10 number, Char.isDigit c = true :=
    fun c member => isDigit_of_mem_toDigits member
  have whole :
      (Nat.toDigits 10 number).takeWhile Char.isDigit =
        Nat.toDigits 10 number :=
    List.takeWhile_eq_self_iff.mpr allDigits
  have nothingLeft :
      (Nat.toDigits 10 number).dropWhile Char.isDigit = [] :=
    List.dropWhile_eq_nil_iff.mpr allDigits
  simp only [JsonToken.number, unsigned, whole, nothingLeft,
    isWholePart_toDigits]
  rfl

theorem withoutMinus_toDigits
    (number : Nat) :
    withoutMinus (Nat.toDigits 10 number) = Nat.toDigits 10 number := by
  unfold withoutMinus
  split
  · rename_i digits shape
    have member : '-' ∈ Nat.toDigits 10 number := by
      simp [shape]
    cases isDigit_of_mem_toDigits member
  · rfl

theorem isDigit_or_eq_of_withoutMinus
    (unsigned : withoutMinus word = Nat.toDigits 10 number)
    (member : c ∈ word) :
    c.isDigit = true ∨ c = '-' := by
  unfold withoutMinus at unsigned
  split at unsigned
  · rcases List.mem_cons.mp member with isMinus | inDigits
    · exact Or.inr isMinus
    · rw [unsigned] at inDigits
      exact Or.inl (isDigit_of_mem_toDigits inDigits)
  · rw [unsigned] at member
    exact Or.inl (isDigit_of_mem_toDigits member)

theorem ofWord_of_withoutMinus
    (unsigned : withoutMinus word = Nat.toDigits 10 number) :
    ofWord word = JsonToken.number word := by
  apply ofWord_of_noLetter
  intro c member
  rcases isDigit_or_eq_of_withoutMinus unsigned member with digit | rfl
  · exact
      ascii_of_forall_point (fun c => c.isDigit = true → c.isAlpha = false)
        (by decide) (toNat_lt_of_isDigit digit) digit
  · rfl

theorem scansAsWord_of_withoutMinus
    (unsigned : withoutMinus word = Nat.toDigits 10 number) :
    ScansAsWord word [JsonToken.number word] := by
  rw [← ofWord_of_withoutMinus unsigned]
  apply scansAsWord_ofWord
  · intro c member
    rcases isDigit_or_eq_of_withoutMinus unsigned member with digit | rfl
    · simp [isWordChar, Char.isAlphanum, digit]
    · rfl
  · rintro rfl
    exact Nat.toDigits_ne_nil unsigned.symm

theorem scansAsWord_of_short
    (short : number < 10 ^ Numeral.digitLimit)
    (unsigned : withoutMinus word = Nat.toDigits 10 number) :
    ScansAsWord word
      [.leaf
        (.integer
          (if Nat.toDigits 10 number = word then number else -number))] := by
  have scanned := scansAsWord_of_withoutMinus unsigned
  rwa [number_of_withoutMinus unsigned, Numeral.read_toDigits short] at scanned

/-- An integer that is too long is scanned as one that is not read. -/
theorem scansAsWord_of_long
    (long : 10 ^ Numeral.digitLimit ≤ number)
    (unsigned : withoutMinus word = Nat.toDigits 10 number) :
    ScansAsWord word
      [.refused (.tooLongToRead (Nat.toDigits 10 number).length)] := by
  have scanned := scansAsWord_of_withoutMinus unsigned
  rwa [number_of_withoutMinus unsigned,
    Numeral.read_toDigits_of_long long] at scanned

/-- What is written of an integer is scanned as the integer. -/
theorem scansAsWord_integer
    {value : Int}
    (written : Numeral.write value = .ok text) :
    ScansAsWord text [.leaf (.integer value)] := by
  obtain ⟨number, short, ⟨rfl, rfl⟩ | ⟨rfl, rfl⟩⟩ :=
    Numeral.exists_of_write_eq_ok written
  · have scanned := scansAsWord_of_short short (withoutMinus_toDigits number)
    rwa [if_pos rfl] at scanned
  · have signed :
        ¬ Nat.toDigits 10 number = '-' :: Nat.toDigits 10 number :=
      fun same => absurd (congrArg List.length same) (by simp)
    have unsigned :
        withoutMinus ('-' :: Nat.toDigits 10 number) =
          Nat.toDigits 10 number :=
      rfl
    have scanned := scansAsWord_of_short short unsigned
    rwa [if_neg signed] at scanned

/-! ## Strings -/

variable {read : Text} {unit : Nat}

theorem scanFrom_string_unitEscape
    (fits : unit < 0x10000)
    (high : Option Nat)
    (rest : Text) :
    scanFrom (.string read high) (Json.unitEscape unit ++ rest) =
      scanFrom (afterUnit read high unit) rest := by
  have isUnit := Text.hexNumber?_hexDigits 4 unit
  have fourDigits : (Text.hexDigits 4 unit).length = 4 :=
    Text.length_hexDigits (by decide) fits
  obtain ⟨first, second, third, fourth, digits⟩ :=
    List.length_eq_four.mp fourDigits
  rw [digits] at isUnit
  rw [Json.unitEscape, digits]
  simp only [List.cons_append, List.nil_append]
  rw [scanFrom, isUnit]

/-- A character up to the last of four digits is read back from its single unit. -/
theorem afterUnit_single
    (single : c.toNat < 0x10000) :
    afterUnit read none c.toNat = .string (c :: read) none := by
  have valid : c.toNat.isValidChar := c.valid
  have noHigh : ¬ (0xD800 ≤ c.toNat ∧ c.toNat < 0xDC00) := by
    simp only [Nat.isValidChar] at valid
    omega
  have noLow : ¬ (0xDC00 ≤ c.toNat ∧ c.toNat < 0xE000) := by
    simp only [Nat.isValidChar] at valid
    omega
  rw [afterUnit, if_neg noHigh, if_neg noLow, Char.ofNat_toNat]
  rfl

/-- A character beyond four digits is read back from the two halves of its pair. -/
theorem afterUnit_pair
    (read : Text)
    {point : Nat}
    (beyond : 0x10000 ≤ point)
    (isPoint : point < 0x110000) :
    afterUnit read none (0xD800 + (point - 0x10000) / 0x400) =
        .string read (some (0xD800 + (point - 0x10000) / 0x400)) ∧
      afterUnit read (some (0xD800 + (point - 0x10000) / 0x400))
          (0xDC00 + (point - 0x10000) % 0x400) =
        .string (Char.ofNat point :: read) none := by
  constructor
  · rw [afterUnit, if_pos (by omega)]
    rfl
  · have whole :
        0x10000 + (0xD800 + (point - 0x10000) / 0x400 - 0xD800) * 0x400 +
            (0xDC00 + (point - 0x10000) % 0x400 - 0xDC00) =
          point := by
      omega
    rw [afterUnit, if_neg (by omega), if_pos (by omega), whole]

theorem scanFrom_string_plain
    (noQuote : c ≠ '"')
    (noBackslash : c ≠ '\\')
    (noControl : 0x20 ≤ c.toNat)
    (rest : Text) :
    scanFrom (.string read none) (c :: rest) =
      scanFrom (.string (c :: read) none) rest := by
  have plain : ¬ (c.toNat < 0x20 ∨ c = '\\') :=
    not_or.mpr ⟨Nat.not_lt.mpr noControl, noBackslash⟩
  rw [scanFrom]
  · rw [if_neg plain]
    rfl
  · exact noQuote
  · exact fun _ _ _ _ _ isBackslash _ => noBackslash isBackslash
  · exact fun _ _ isBackslash _ => noBackslash isBackslash

/-- However a character is written in a string, it is read back. -/
theorem scanFrom_string_escapedChar
    (c : Char)
    (read rest : Text) :
    scanFrom (.string read none) (Json.escapedChar c ++ rest) =
      scanFrom (.string (c :: read) none) rest := by
  unfold Json.escapedChar
  split_ifs with quoted lineFeed carriageReturn tab backspace formFeed
    printable single
  · rcases quoted with rfl | rfl <;> rfl
  · subst lineFeed
    rfl
  · subst carriageReturn
    rfl
  · subst tab
    rfl
  · subst backspace
    rfl
  · subst formFeed
    rfl
  · obtain ⟨noQuote, noBackslash⟩ := not_or.mp quoted
    exact scanFrom_string_plain noQuote noBackslash printable.1 rest
  · rw [scanFrom_string_unitEscape single, afterUnit_single single]
  · have beyond : 0x10000 ≤ c.toNat := Nat.not_lt.mp single
    have isPoint : c.toNat < 0x110000 := by
      have valid : c.toNat.isValidChar := c.valid
      simp only [Nat.isValidChar] at valid
      omega
    obtain ⟨high, low⟩ := afterUnit_pair read beyond isPoint
    rw [List.append_assoc, scanFrom_string_unitEscape (by omega), high,
      scanFrom_string_unitEscape (by omega), low, Char.ofNat_toNat]

theorem scanFrom_string_escaped
    (text read rest : Text) :
    scanFrom (.string read none)
        (text.flatMap Json.escapedChar ++ '"' :: rest) =
      .leaf (.string (read.reverse ++ text)) :: scan rest := by
  induction text generalizing read with
  | nil =>
      rw [List.flatMap_nil, List.nil_append, scanFrom, List.append_nil]
      rfl
  | cons c others inductionHypothesis =>
      rw [List.flatMap_cons, List.append_assoc, scanFrom_string_escapedChar,
        inductionHypothesis]
      simp

theorem scans_writtenString
    (text : Text) :
    Scans (Json.writtenString text) [.leaf (.string text)] := by
  intro rest
  have opened :
      scan (Json.writtenString text ++ rest) =
        scanFrom (.string [] none)
          (text.flatMap Json.escapedChar ++ '"' :: rest) := by
    rw [Json.writtenString, scan, List.append_assoc, List.append_assoc]
    rfl
  rw [opened, scanFrom_string_escaped]
  rfl

end JsonToken

end AdFilter
