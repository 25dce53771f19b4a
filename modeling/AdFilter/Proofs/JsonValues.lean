import AdFilter.Proofs.TextMaps
import AdFilter.Proofs.WrittenJson

namespace AdFilter

/-!
# JSON values written and read back

A value whose integers are not too long is written whole in either layout, and it is read back as the same value.  Its text
is scanned as the tokens of its parts, and the tokens of a part leave the reader with that part complete, whatever arrays and
objects are still open around it.
-/

namespace Json

/--
A value that a text can stand for: its integers have no more digits than the limit, the fields of its objects have different
names, and a number that is kept as it is written is written as such a number.
-/
inductive WellFormed : Json → Prop where
  | null :
      WellFormed .null
  | bool (value : Bool) :
      WellFormed (.bool value)
  | integer
      {value : Int}
      (short : value.natAbs < 10 ^ Numeral.digitLimit) :
      WellFormed (.integer value)
  | decimal
      {written : Text}
      (areChars : ∀ c ∈ written, JsonToken.isWordChar c = true)
      (reads : JsonToken.ofWord written = .leaf (.decimal written)) :
      WellFormed (.decimal written)
  | string (value : Text) :
      WellFormed (.string value)
  | array
      {items : List Json}
      (parts : ∀ item ∈ items, WellFormed item) :
      WellFormed (.array items)
  | object
      {fields : List (Text × Json)}
      (different : (fields.map Prod.fst).Nodup)
      (parts : ∀ field ∈ fields, WellFormed field.2) :
      WellFormed (.object fields)

mutual

/-- The tokens that a value is written with. -/
def tokens : Json → List JsonToken
  | .array [] => [.openArray, .closeArray]
  | .array (item :: items) =>
      [.openArray] ++ item.tokens ++ itemTokens items ++ [.closeArray]
  | .object [] => [.openObject, .closeObject]
  | .object ((name, value) :: fields) =>
      [.openObject] ++ ([.leaf (.string name), .colon] ++ value.tokens) ++
        fieldTokens fields ++ [.closeObject]
  | .null => [.leaf .null]
  | .bool value => [.leaf (.bool value)]
  | .integer value => [.leaf (.integer value)]
  | .decimal written => [.leaf (.decimal written)]
  | .string value => [.leaf (.string value)]

/-- The tokens of the items of an array after the first one. -/
def itemTokens : List Json → List JsonToken
  | [] => []
  | item :: items => [.comma] ++ item.tokens ++ itemTokens items

/-- The tokens of the fields of an object after the first one. -/
def fieldTokens : List (Text × Json) → List JsonToken
  | [] => []
  | (name, value) :: fields =>
      [.comma] ++ ([.leaf (.string name), .colon] ++ value.tokens) ++
        fieldTokens fields

end

/-! ## Writing -/

section Writing

variable {first second : List (Except NumeralError Text)} {text front back : Text}

/-- Pieces are written whole, as a text. -/
def Writes (pieces : List (Except NumeralError Text)) (text : Text) : Prop :=
  Writing.ofPieces pieces = ⟨text, none⟩

theorem writes_piece
    (piece : Text) :
    Writes [.ok piece] piece := by
  rw [Writes, Writing.ofPieces, Writing.ofPieces, List.append_nil]

/-- Nothing that comes before a piece is lost when the piece is refused. -/
theorem Writes.ofPieces_append
    (writes : Writes first text)
    (second : List (Except NumeralError Text)) :
    Writing.ofPieces (first ++ second) =
      ⟨text ++ (Writing.ofPieces second).text,
        (Writing.ofPieces second).failure?⟩ := by
  induction first generalizing text with
  | nil =>
      cases writes
      rfl
  | cons piece others inductionHypothesis =>
      cases piece with
      | error failure =>
          cases writes
      | ok piece =>
          rw [Writes, Writing.ofPieces] at writes
          obtain ⟨rfl, complete⟩ := Writing.mk.inj writes
          have othersWrite :
              Writes others (Writing.ofPieces others).text := by
            rw [Writes, ← complete]
          rw [List.cons_append, Writing.ofPieces,
            inductionHypothesis othersWrite, List.append_assoc]

theorem Writes.append
    (writesFront : Writes first front)
    (writesBack : Writes second back) :
    Writes (first ++ second) (front ++ back) := by
  rw [Writes, writesFront.ofPieces_append, writesBack]

end Writing

/-! ## Scanning -/

section Scanning

open JsonToken

variable
  {layout : Layout} {depth : Nat} {value : Json} {before lead : Text}
  {pieces laterPieces : List (Except NumeralError Text)}
  {tokens laterTokens : List JsonToken}

/-- Pieces are written as what stands before a value and a text that is scanned as tokens, if no character of a word follows. -/
def WritesValue
    (before : Text)
    (pieces : List (Except NumeralError Text))
    (tokens : List JsonToken) : Prop :=
  ∃ text, Writes pieces (before ++ text) ∧ ScansAsWord text tokens

/-- Pieces are written as a text that is scanned as tokens and ends the word before it. -/
def WritesRest
    (pieces : List (Except NumeralError Text))
    (tokens : List JsonToken) : Prop :=
  ∃ text, Writes pieces text ∧ Scans text tokens ∧ EndsWord text

theorem WritesValue.after
    (writes : WritesValue lead pieces tokens)
    (before : Text) :
    WritesValue (before ++ lead) ([.ok before] ++ pieces) tokens := by
  obtain ⟨text, written, scanned⟩ := writes
  refine ⟨text, ?_, scanned⟩
  rw [List.append_assoc]
  exact (writes_piece before).append written

/-- A field is written as its name, a colon and its value. -/
theorem WritesValue.field
    (writes : WritesValue [] pieces tokens)
    (lead name : Text) :
    WritesValue lead
      ([.ok (lead ++ writtenString name ++ [':', ' '])] ++ pieces)
      ([.leaf (.string name), .colon] ++ tokens) := by
  obtain ⟨text, written, scanned⟩ := writes
  have colon : Scans [':', ' '] [.colon] :=
    (scans_singleton (c := ':') rfl).append (scans_singleton (c := ' ') rfl)
  refine
    ⟨writtenString name ++ [':', ' '] ++ text, ?_,
      ((scans_writtenString name).append colon).append_word scanned⟩
  simpa only [List.append_assoc, List.nil_append] using
    (writes_piece (lead ++ writtenString name ++ [':', ' '])).append written

theorem endsWord_lineBreak_append
    {back : Text}
    (layout : Layout)
    (depth : Nat)
    (ends : EndsWord back) :
    EndsWord (layout.lineBreak depth ++ back) := by
  cases layout with
  | singleLine =>
      exact ends
  | indented width =>
      exact ⟨'\n', rfl, rfl⟩

/-- What closes an array or an object ends the word before it. -/
theorem writesRest_closing
    {closing : Char}
    {token : JsonToken}
    (closes : Scans [closing] [token])
    (ends : isWordChar closing = false)
    (layout : Layout)
    (depth : Nat) :
    WritesRest [.ok (layout.lineBreak depth ++ [closing])] [token] :=
  ⟨_, writes_piece _, (scans_lineBreak layout depth).append closes,
    endsWord_lineBreak_append layout depth ⟨closing, rfl, ends⟩⟩

/-- A further part begins with a comma, so it ends the word before it too. -/
theorem WritesRest.cons
    (part : WritesValue ([','] ++ layout.lineBreak depth) pieces tokens)
    (later : WritesRest laterPieces laterTokens) :
    WritesRest (pieces ++ laterPieces)
      ([.comma] ++ tokens ++ laterTokens) := by
  obtain ⟨text, written, scanned⟩ := part
  obtain ⟨back, backWritten, backScanned, backEnds⟩ := later
  have comma : Scans ([','] ++ layout.lineBreak depth) [.comma] :=
    (scans_singleton (c := ',') rfl).append (scans_lineBreak layout depth)
  refine ⟨_, written.append backWritten, ?_, ⟨',', rfl, rfl⟩⟩
  simpa only [List.append_assoc] using
    comma.append (scanned.append backScanned backEnds)

theorem writesRest_items
    {items : List Json}
    (parts :
      ∀ item ∈ items, ∀ lead,
        WritesValue lead (item.pieces layout depth lead) item.tokens)
    (later : WritesRest laterPieces laterTokens) :
    WritesRest (itemPieces layout depth items ++ laterPieces)
      (itemTokens items ++ laterTokens) := by
  induction items with
  | nil =>
      exact later
  | cons item others inductionHypothesis =>
      have othersWritten :=
        inductionHypothesis fun other member =>
          parts other (List.mem_cons_of_mem _ member)
      rw [itemPieces, itemTokens, List.append_assoc, List.append_assoc _ _ laterTokens]
      exact .cons (parts item List.mem_cons_self _) othersWritten

theorem writesRest_fields
    {fields : List (Text × Json)}
    (parts :
      ∀ field ∈ fields, ∀ lead,
        WritesValue lead (field.2.pieces layout depth lead) field.2.tokens)
    (later : WritesRest laterPieces laterTokens) :
    WritesRest (fieldPieces layout depth fields ++ laterPieces)
      (fieldTokens fields ++ laterTokens) := by
  induction fields with
  | nil =>
      exact later
  | cons field others inductionHypothesis =>
      obtain ⟨name, value⟩ := field
      have othersWritten :=
        inductionHypothesis fun other member =>
          parts other (List.mem_cons_of_mem _ member)
      have fieldWritten :=
        (parts (name, value) List.mem_cons_self []).field
          ([','] ++ layout.lineBreak depth) name
      rw [fieldPieces, fieldTokens, List.append_assoc, List.append_assoc _ _ laterTokens]
      exact .cons fieldWritten othersWritten

/-- The parts of an array or an object stand between what opens and what closes it. -/
theorem WritesValue.enclosed
    {opening : Char}
    {token : JsonToken}
    (first :
      WritesValue (before ++ ([opening] ++ layout.lineBreak depth))
        pieces tokens)
    (opens : Scans [opening] [token])
    (later : WritesRest laterPieces laterTokens) :
    WritesValue before (pieces ++ laterPieces)
      ([token] ++ tokens ++ laterTokens) := by
  obtain ⟨text, written, scanned⟩ := first
  obtain ⟨back, backWritten, backScanned, backEnds⟩ := later
  have front : Scans ([opening] ++ layout.lineBreak depth) [token] :=
    opens.append (scans_lineBreak layout depth)
  refine
    ⟨[opening] ++ layout.lineBreak depth ++ (text ++ back), ?_, ?_⟩
  · simpa only [List.append_assoc] using written.append backWritten
  · simpa only [List.append_assoc] using
      (front.append (scanned.append backScanned backEnds)).asWord

theorem writesValue_array
    {items : List Json}
    (parts :
      ∀ item ∈ items, ∀ lead,
        WritesValue lead (item.pieces layout (depth + 1) lead) item.tokens)
    (before : Text) :
    WritesValue before ((Json.array items).pieces layout depth before)
      (Json.array items).tokens := by
  have opens : Scans ['['] [.openArray] := scans_singleton rfl
  have closes : Scans [']'] [.closeArray] := scans_singleton rfl
  cases items with
  | nil =>
      exact ⟨_, writes_piece _, (opens.append closes).asWord⟩
  | cons item others =>
      have first :=
        (parts item List.mem_cons_self
          (['['] ++ layout.lineBreak (depth + 1))).after before
      have later :=
        writesRest_items
          (fun other member => parts other (List.mem_cons_of_mem _ member))
          (writesRest_closing closes rfl layout depth)
      rw [Json.pieces, Json.tokens]
      simpa only [List.append_assoc] using first.enclosed opens later

theorem writesValue_object
    {fields : List (Text × Json)}
    (parts :
      ∀ field ∈ fields, ∀ lead,
        WritesValue lead (field.2.pieces layout (depth + 1) lead)
          field.2.tokens)
    (before : Text) :
    WritesValue before ((Json.object fields).pieces layout depth before)
      (Json.object fields).tokens := by
  have opens : Scans ['\x7b'] [.openObject] := scans_singleton rfl
  have closes : Scans ['\x7d'] [.closeObject] := scans_singleton rfl
  cases fields with
  | nil =>
      exact ⟨_, writes_piece _, (opens.append closes).asWord⟩
  | cons field others =>
      obtain ⟨name, value⟩ := field
      have first :=
        (parts (name, value) List.mem_cons_self []).field
          (before ++ (['\x7b'] ++ layout.lineBreak (depth + 1))) name
      have later :=
        writesRest_fields
          (fun other member => parts other (List.mem_cons_of_mem _ member))
          (writesRest_closing closes rfl layout depth)
      rw [Json.pieces, Json.tokens]
      simpa only [List.append_assoc] using first.enclosed opens later

/-- A value is written whole, and scanned as its tokens. -/
theorem writesValue_of_wellFormed
    (wellFormed : value.WellFormed)
    (layout : Layout)
    (depth : Nat)
    (before : Text) :
    WritesValue before (value.pieces layout depth before) value.tokens := by
  induction wellFormed generalizing depth before with
  | null =>
      exact
        ⟨_, writes_piece _,
          scansAsWord_of_ofWord (by simp [isWordChar]) rfl⟩
  | bool value =>
      cases value with
      | false =>
          exact
            ⟨_, writes_piece _,
              scansAsWord_of_ofWord (by simp [isWordChar]) rfl⟩
      | true =>
          exact
            ⟨_, writes_piece _,
              scansAsWord_of_ofWord (by simp [isWordChar]) rfl⟩
  | integer short =>
      obtain ⟨text, written⟩ := Numeral.exists_write_eq_ok_iff.mpr short
      refine ⟨text, ?_, scansAsWord_integer written⟩
      rw [Json.pieces, written]
      exact writes_piece _
  | decimal areChars reads =>
      exact ⟨_, writes_piece _, scansAsWord_of_ofWord areChars reads⟩
  | string value =>
      exact ⟨_, writes_piece _, (scans_writtenString value).asWord⟩
  | array _ inductionHypothesis =>
      apply writesValue_array
      exact fun item member => inductionHypothesis item member (depth + 1)
  | object _ _ inductionHypothesis =>
      apply writesValue_object
      exact fun field member => inductionHypothesis field member (depth + 1)

end Scanning

/-! ## Reading -/

section Reading

variable {value : Json} {around : List Opened}

/-- No value begins with what closes an array. -/
theorem exists_tokens_eq_cons
    (value : Json) :
    ∃ first others,
      value.tokens = first :: others ∧ first ≠ .closeArray := by
  cases value with
  | array items =>
      cases items with
      | nil =>
          exact ⟨_, _, rfl, nofun⟩
      | cons item others =>
          exact ⟨.openArray, _, by rw [tokens]; rfl, nofun⟩
  | object fields =>
      cases fields with
      | nil =>
          exact ⟨_, _, rfl, nofun⟩
      | cons field others =>
          exact ⟨.openObject, _, by rw [tokens]; rfl, nofun⟩
  | null =>
      exact ⟨_, _, rfl, nofun⟩
  | bool value =>
      exact ⟨_, _, rfl, nofun⟩
  | integer value =>
      exact ⟨_, _, rfl, nofun⟩
  | decimal written =>
      exact ⟨_, _, rfl, nofun⟩
  | string value =>
      exact ⟨_, _, rfl, nofun⟩

/-- The first item of an array is read as any other value. -/
theorem foldlM_step_firstItem
    (value : Json)
    (around : List Opened) :
    value.tokens.foldlM Progress.step (.firstItem around) =
      value.tokens.foldlM Progress.step (.value (.array [] :: around)) := by
  obtain ⟨first, others, shape, notClosing⟩ := exists_tokens_eq_cons value
  have sameStep :
      Progress.step (.firstItem around) first =
        Progress.step (.value (.array [] :: around)) first := by
    cases first with
    | closeArray =>
        exact absurd rfl notClosing
    | _ =>
        rfl
  rw [shape, List.foldlM_cons, List.foldlM_cons, sameStep]

/-- What the tokens of a value leave behind: the value, complete. -/
def ReadsBack (value : Json) : Prop :=
  ∀ around,
    value.tokens.foldlM Progress.step (.value around) =
      .ok (.complete value around)

theorem ReadsBack.foldlM_append
    (readsBack : ReadsBack value)
    (around : List Opened)
    (rest : List JsonToken) :
    (value.tokens ++ rest).foldlM Progress.step (.value around) =
      rest.foldlM Progress.step (.complete value around) := by
  rw [List.foldlM_append, readsBack around]
  rfl

theorem foldlM_step_items
    {items : List Json}
    (parts : ∀ item ∈ items, ReadsBack item)
    (first : Json)
    (read : List Json)
    (around : List Opened) :
    (itemTokens items ++ [JsonToken.closeArray]).foldlM Progress.step
        (.complete first (.array read :: around)) =
      .ok (.complete (.array (read.reverse ++ first :: items)) around) := by
  induction items generalizing first read with
  | nil =>
      simp [itemTokens, Progress.step]
  | cons item others inductionHypothesis =>
      have later :=
        inductionHypothesis
          (fun other member => parts other (List.mem_cons_of_mem _ member))
          item (first :: read)
      rw [itemTokens, List.append_assoc, List.append_assoc,
        List.singleton_append, List.foldlM_cons]
      change
        (item.tokens ++ (itemTokens others ++ [JsonToken.closeArray])).foldlM
            Progress.step (.value (.array (first :: read) :: around)) =
          .ok _
      rw [(parts item List.mem_cons_self).foldlM_append]
      simpa using later

theorem foldlM_step_fields
    {fields : List (Text × Json)}
    (parts : ∀ field ∈ fields, ReadsBack field.2)
    (name : Text)
    (value : Json)
    (read : List (Text × Json))
    (around : List Opened) :
    (fieldTokens fields ++ [JsonToken.closeObject]).foldlM Progress.step
        (.complete value (.object read name :: around)) =
      .ok
        (.complete (ofFields (read.reverse ++ (name, value) :: fields))
          around) := by
  induction fields generalizing name value read with
  | nil =>
      simp [fieldTokens, Progress.step]
  | cons field others inductionHypothesis =>
      obtain ⟨nextName, nextValue⟩ := field
      have later :=
        inductionHypothesis
          (fun other member => parts other (List.mem_cons_of_mem _ member))
          nextName nextValue ((name, value) :: read)
      rw [fieldTokens]
      simp only [List.append_assoc, List.cons_append, List.nil_append,
        List.foldlM_cons]
      change
        (nextValue.tokens ++ (fieldTokens others ++ [JsonToken.closeObject])).foldlM
            Progress.step
            (.value (.object ((name, value) :: read) nextName :: around)) =
          .ok _
      rw [(parts (nextName, nextValue) List.mem_cons_self).foldlM_append]
      simpa using later

theorem ofFields_of_nodup
    {fields : List (Text × Json)}
    (different : (fields.map Prod.fst).Nodup) :
    ofFields fields = .object fields := by
  rw [ofFields, TextMap.entries_ofList_of_nodup different]

theorem readsBack_array
    {items : List Json}
    (parts : ∀ item ∈ items, ReadsBack item) :
    ReadsBack (.array items) := by
  intro around
  cases items with
  | nil =>
      rfl
  | cons item others =>
      have later :=
        foldlM_step_items
          (fun other member => parts other (List.mem_cons_of_mem _ member))
          item [] around
      rw [tokens]
      simp only [List.append_assoc, List.singleton_append]
      change
        (item.tokens ++ (itemTokens others ++ [JsonToken.closeArray])).foldlM
            Progress.step (.firstItem around) =
          .ok _
      rw [List.foldlM_append, foldlM_step_firstItem, ← List.foldlM_append,
        (parts item List.mem_cons_self).foldlM_append]
      simpa using later

theorem readsBack_object
    {fields : List (Text × Json)}
    (different : (fields.map Prod.fst).Nodup)
    (parts : ∀ field ∈ fields, ReadsBack field.2) :
    ReadsBack (.object fields) := by
  intro around
  cases fields with
  | nil =>
      rfl
  | cons field others =>
      obtain ⟨name, value⟩ := field
      have later :=
        foldlM_step_fields
          (fun other member => parts other (List.mem_cons_of_mem _ member))
          name value [] around
      rw [tokens]
      simp only [List.append_assoc, List.cons_append, List.nil_append,
        List.foldlM_cons]
      change
        (value.tokens ++ (fieldTokens others ++ [JsonToken.closeObject])).foldlM
            Progress.step (.value (.object [] name :: around)) =
          .ok _
      rw [(parts (name, value) List.mem_cons_self).foldlM_append,
        ← ofFields_of_nodup different]
      simpa using later

/-- The tokens of a value leave the value behind, whatever is open around it. -/
theorem readsBack_of_wellFormed
    (wellFormed : value.WellFormed) :
    ReadsBack value := by
  induction wellFormed with
  | null =>
      exact fun _ => rfl
  | bool value =>
      exact fun _ => rfl
  | integer _ =>
      exact fun _ => rfl
  | decimal _ _ =>
      exact fun _ => rfl
  | string value =>
      exact fun _ => rfl
  | array _ inductionHypothesis =>
      exact readsBack_array inductionHypothesis
  | object different _ inductionHypothesis =>
      exact readsBack_object different inductionHypothesis

/-- A value is written whole in either layout, and what is written is read back as the value. -/
theorem parse_written
    (wellFormed : value.WellFormed)
    (layout : Layout) :
    (value.written layout).failure? = none ∧
      parse (value.written layout).text = .ok value := by
  obtain ⟨text, written, scanned⟩ :=
    writesValue_of_wellFormed wellFormed layout 0 []
  have whole : value.written layout = ⟨text, none⟩ := written
  have nothingFollows :
      ∀ c ∈ ([] : Text).head?, JsonToken.isWordChar c = false := by
    intro c isHead
    cases isHead
  have tokens : JsonToken.scan text = value.tokens := by
    simpa [JsonToken.scan, JsonToken.scanFrom] using scanned [] nothingFollows
  rw [whole]
  refine ⟨rfl, ?_⟩
  dsimp only
  rw [parse, tokens, ofTokens, readsBack_of_wellFormed wellFormed]

end Reading

end Json

end AdFilter
