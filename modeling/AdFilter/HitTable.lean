import AdFilter.TextMap

namespace AdFilter

/-!
# Hits of rules

Rules do not change when they match.  How often and when they did is counted apart from them, by their text.
-/

/-- How often a rule matched, and when it did so last, in milliseconds. -/
structure HitRecord where
  count : Nat
  lastHit : Int
  deriving Repr, DecidableEq

/-- The hits of the rules that have any. -/
structure HitTable where
  records : TextMap HitRecord
  deriving Repr, DecidableEq

namespace HitRecord

/-- What is known of a rule that never matched. -/
def none : HitRecord := ⟨0, 0⟩

/-- One hit more. -/
def hit (record : HitRecord) (timestamp : Int) : HitRecord :=
  ⟨record.count + 1, timestamp⟩

end HitRecord

namespace HitTable

/-- No hits. -/
def empty : HitTable := ⟨.empty⟩

/-- The hits of the rule with a text. -/
def get (table : HitTable) (text : Text) : HitRecord :=
  (table.records.get? text).getD .none

/-- The number of rules with hits. -/
def size (table : HitTable) : Nat :=
  table.records.size

/-- Count a hit of the rule with a text. -/
def record (table : HitTable) (text : Text) (timestamp : Int) : HitRecord × HitTable :=
  let updated := (table.get text).hit timestamp
  (updated, ⟨table.records.insert text updated⟩)

/-- Count one hit for each of several texts. -/
def recordAll (table : HitTable) (timestamp : Int) : List Text → List (Text × HitRecord) × HitTable
  | [] => ([], table)
  | text :: texts =>
      let (updated, next) := table.record text timestamp
      let (others, last) := next.recordAll timestamp texts
      ((text, updated) :: others, last)

/-- Forget the hits of the rule with a text, or of all rules. -/
def reset (table : HitTable) (text : Option Text) : HitTable :=
  match text with
  | none => empty
  | some text => ⟨table.records.erase text⟩

end HitTable

end AdFilter
