namespace AdFilter

/-!
# Texts

Rules, addresses and lists are texts: lists of characters.  This module holds the ways a text is taken apart
at a fixed character or at a fixed piece.
-/

/-- A text is the list of its characters. -/
abbrev Text := List Char

namespace Text

/-- What precedes and what follows the first occurrence of `needle`. -/
def cut? (needle : Text) : Text → Option (Text × Text)
  | [] =>
      if needle = [] then some ([], []) else none
  | c :: rest =>
      match needle.isPrefixOf? (c :: rest) with
      | some after => some ([], after)
      | none => (cut? needle rest).map fun (before, after) => (c :: before, after)

/-- Whether `needle` occurs in the text. -/
def contains (needle text : Text) : Bool :=
  (cut? needle text).isSome

private theorem length_isPrefixOf?
    {lead text rest : Text}
    (found : lead.isPrefixOf? text = some rest) :
    lead.length + rest.length = text.length := by
  induction lead generalizing text with
  | nil =>
      have same : text = rest := Option.some.inj found
      simp [same]
  | cons expected lead inductionHypothesis =>
      cases text with
      | nil => exact absurd found nofun
      | cons c text =>
          change (if expected == c then lead.isPrefixOf? text else none) = some rest at found
          split at found
          · have := inductionHypothesis found
            simp only [List.length_cons]
            omega
          · exact absurd found nofun

theorem length_cut?
    {needle text before after : Text}
    (found : cut? needle text = some (before, after)) :
    before.length + needle.length + after.length = text.length := by
  induction text generalizing before with
  | nil =>
      by_cases empty : needle = []
      · simp only [cut?, empty, if_true, Option.some.injEq, Prod.mk.injEq] at found
        obtain ⟨rfl, rfl⟩ := found
        simp [empty]
      · simp [cut?, empty] at found
  | cons c rest inductionHypothesis =>
      simp only [cut?] at found
      split at found
      · rename_i stripped
        have := length_isPrefixOf? stripped
        simp only [Option.some.injEq, Prod.mk.injEq] at found
        obtain ⟨rfl, rfl⟩ := found
        simpa using this
      · simp only [Option.map_eq_some_iff, Prod.exists, Prod.mk.injEq] at found
        obtain ⟨before', after', recursive, rfl, rfl⟩ := found
        have := inductionHypothesis recursive
        simp only [List.length_cons]
        omega

/--
The pieces of a text between the occurrences of a piece of text, which are looked for from the left and do
not overlap.  The empty piece separates nothing.
-/
def splitOnText (separator text : Text) : List Text :=
  match _found : cut? separator text with
  | none => [text]
  | some (before, after) =>
      if separator = [] then [text] else before :: splitOnText separator after
termination_by text.length
decreasing_by
  have := length_cut? _found
  have : 0 < separator.length := List.length_pos_iff.mpr ‹_›
  omega

/--
The text from a place on with every occurrence of a piece replaced, where `passing` says how many characters
of the occurrence before that place are still to be passed over.
-/
def replaceFrom (needle replacement : Text) : Nat → Text → Text
  | _, [] => []
  | passing + 1, _ :: rest => replaceFrom needle replacement passing rest
  | 0, c :: rest =>
      if needle.isPrefixOf (c :: rest) then
        replacement ++ replaceFrom needle replacement (needle.length - 1) rest
      else
        c :: replaceFrom needle replacement 0 rest

/--
The text with every occurrence of a piece replaced.  Occurrences are looked for from the left and do not overlap,
and the piece has at least one character.
-/
def replaceAll (needle replacement text : Text) : Text :=
  replaceFrom needle replacement 0 text

/-- What follows each occurrence of a character, from the longest to the shortest. -/
def tailsAfter (mark : Char) : Text → List Text
  | [] => []
  | c :: rest =>
      if c = mark then rest :: tailsAfter mark rest else tailsAfter mark rest

/-- The text without the characters at both ends that `drop` holds for. -/
def trim (drop : Char → Bool) (text : Text) : Text :=
  ((text.dropWhile drop).reverse.dropWhile drop).reverse

end Text

end AdFilter
