import AdFilter.TextMap
import Mathlib.Data.List.Induction
import Mathlib.Data.List.Nodup

namespace AdFilter

/-!
# What maps hold

A map that assignments make one after the other has for each key the value of the last assignment to it.
-/

namespace TextMap

variable {α : Type} {map : TextMap α} {key other : Text} {value : α}

/-! ## One more assignment -/

theorem lookup_cons_ite
    (entry : Text × α)
    (rest : List (Text × α))
    (key : Text) :
    (entry :: rest).lookup key =
      if key = entry.1 then some entry.2 else rest.lookup key := by
  by_cases here : key = entry.1
  · have test : (key == entry.1) = true := beq_iff_eq.mpr here
    rw [List.lookup_cons, test, if_pos here]
  · have test : (key == entry.1) = false := beq_eq_false_iff_ne.mpr here
    rw [List.lookup_cons, test, if_neg here]

theorem lookup_isSome_iff_mem_keys
    (entries : List (Text × α))
    (key : Text) :
    (entries.lookup key).isSome = true ↔ key ∈ entries.map Prod.fst := by
  rw [List.lookup_isSome_iff, List.mem_map]
  constructor
  · rintro ⟨entry, member, same⟩
    exact ⟨entry, member, (beq_iff_eq.mp same).symm⟩
  · rintro ⟨entry, member, same⟩
    exact ⟨entry, member, beq_iff_eq.mpr same.symm⟩

/-- Replacing the value of a key changes what is found under that key, if anything is, and nothing else. -/
theorem lookup_map_replace
    (entries : List (Text × α))
    (key other : Text)
    (value : α) :
    (entries.map fun entry =>
        if entry.1 = key then (key, value) else entry).lookup other =
      if other = key then
        (entries.lookup key).map fun _ => value
      else
        entries.lookup other := by
  induction entries with
  | nil =>
      simp
  | cons entry rest inductionHypothesis =>
      rw [List.map_cons, lookup_cons_ite, lookup_cons_ite, lookup_cons_ite,
        inductionHypothesis]
      by_cases replaced : entry.1 = key
      · by_cases asked : other = key <;> simp [replaced, asked]
      · by_cases asked : other = key
        · simp [replaced, Ne.symm replaced, asked]
        · simp [replaced, asked]

theorem get?_insert
    (map : TextMap α)
    (key other : Text)
    (value : α) :
    (map.insert key value).get? other =
      if other = key then some value else map.get? other := by
  cases present : map.get? key with
  | some old =>
      have contained : map.contains key = true := by
        rw [contains, present, Option.isSome_some]
      rw [insert, if_pos contained, get?, lookup_map_replace]
      rw [get?] at present
      rw [present, Option.map_some, get?]
  | none =>
      have missing : ¬ map.contains key = true := by
        rw [contains, present, Option.isSome_none]
        exact Bool.false_ne_true
      rw [insert, if_neg missing, get?, List.lookup_append, lookup_cons_ite,
        List.lookup_nil, ← get?]
      by_cases asked : other = key
      · simp [asked, present]
      · simp [asked]

theorem keys_insert
    (map : TextMap α)
    (key : Text)
    (value : α) :
    (map.insert key value).keys =
      if map.contains key then map.keys else map.keys ++ [key] := by
  rw [insert]
  split
  · rw [keys, keys, List.map_map]
    apply List.map_congr_left
    intro entry _
    by_cases same : entry.1 = key <;> simp [same]
  · rw [keys, List.map_append]
    rfl

theorem mem_keys_of_mem_insert
    (member : other ∈ (map.insert key value).keys) :
    other = key ∨ other ∈ map.keys := by
  rw [keys_insert] at member
  split at member
  · exact Or.inr member
  · rcases List.mem_append.mp member with inMap | isNew
    · exact Or.inr inMap
    · exact Or.inl (List.mem_singleton.mp isNew)

theorem mem_keys_iff :
    key ∈ map.keys ↔ (map.get? key).isSome = true :=
  (lookup_isSome_iff_mem_keys map.entries key).symm

/-- An assignment adds a key only if the key is new. -/
theorem nodup_keys_insert
    (nodup : map.keys.Nodup) :
    (map.insert key value).keys.Nodup := by
  rw [keys_insert]
  split
  · exact nodup
  · rename_i missing
    refine List.Nodup.append nodup (List.nodup_singleton key) ?_
    intro other inMap isKey
    rw [List.mem_singleton.mp isKey] at inMap
    exact missing (mem_keys_iff.mp inMap)

/-- The values that are not assigned are those that were there before. -/
theorem mem_entries_of_mem_insert
    {entry : Text × α}
    (member : entry ∈ (map.insert key value).entries) :
    entry = (key, value) ∨ entry ∈ map.entries := by
  unfold insert at member
  split at member
  · obtain ⟨old, isOld, rfl⟩ := List.mem_map.mp member
    split
    · exact Or.inl rfl
    · exact Or.inr isOld
  · rcases List.mem_append.mp member with isOld | isNew
    · exact Or.inr isOld
    · exact Or.inl (List.mem_singleton.mp isNew)

theorem insert_isEmpty
    (map : TextMap α)
    (key : Text)
    (value : α) :
    (map.insert key value).isEmpty = false := by
  unfold insert
  split
  · rename_i present
    obtain ⟨old, found⟩ := Option.isSome_iff_exists.mp present
    cases entries : map.entries with
    | nil =>
        simp [get?, entries] at found
    | cons first rest =>
        simp [isEmpty]
  · simp [isEmpty]

/-! ## A key that is dropped -/

theorem get?_erase
    (map : TextMap α)
    (key other : Text) :
    (map.erase key).get? other =
      if other = key then none else map.get? other := by
  obtain ⟨entries⟩ := map
  rw [erase, get?, get?]
  dsimp only
  induction entries with
  | nil =>
      simp
  | cons entry rest inductionHypothesis =>
      by_cases dropped : entry.1 = key
      · rw [List.filter_cons_of_neg (by simpa using dropped),
          inductionHypothesis, lookup_cons_ite, dropped]
        by_cases asked : other = key <;> simp [asked]
      · rw [List.filter_cons_of_pos (by simpa using dropped),
          lookup_cons_ite, lookup_cons_ite, inductionHypothesis]
        by_cases asked : other = key
        · simp [asked, Ne.symm dropped]
        · simp [asked]

theorem nodup_keys_erase
    (nodup : map.keys.Nodup)
    (key : Text) :
    (map.erase key).keys.Nodup :=
  nodup.sublist (List.filter_sublist.map Prod.fst)

/-! ## A list of assignments -/

variable {assignments : List (Text × α)}

theorem ofList_concat
    (assignments : List (Text × α))
    (last : Text × α) :
    ofList (assignments ++ [last]) =
      (ofList assignments).insert last.1 last.2 := by
  simp [ofList]

/-- A list of assignments makes a map with their keys at most. -/
theorem mem_keys_of_mem_ofList
    (member : key ∈ (ofList assignments).keys) :
    ∃ assignment ∈ assignments, assignment.1 = key := by
  -- From the last assignment backwards: the keys of the map before it are those of the assignments before it.
  induction assignments using List.reverseRecOn with
  | nil =>
      cases member
  | append_singleton earlier last inductionHypothesis =>
      rw [ofList_concat] at member
      rcases mem_keys_of_mem_insert member with isLast | inEarlier
      · exact ⟨last, by simp, isLast.symm⟩
      · obtain ⟨assignment, isEarlier, shape⟩ :=
          inductionHypothesis inEarlier
        exact ⟨assignment, by simp [isEarlier], shape⟩

/-- What a list of assignments leaves in the map is among them. -/
theorem mem_of_mem_entries_ofList
    {entry : Text × α}
    (member : entry ∈ (ofList assignments).entries) :
    entry ∈ assignments := by
  induction assignments using List.reverseRecOn with
  | nil =>
      cases member
  | append_singleton earlier last inductionHypothesis =>
      rw [ofList_concat] at member
      rcases mem_entries_of_mem_insert member with isLast | inEarlier
      · simp [isLast]
      · exact List.mem_append_left [last] (inductionHypothesis inEarlier)

theorem nodup_keys_ofList
    (assignments : List (Text × α)) :
    (ofList assignments).keys.Nodup := by
  induction assignments using List.reverseRecOn with
  | nil =>
      exact List.nodup_nil
  | append_singleton earlier last inductionHypothesis =>
      rw [ofList_concat]
      exact nodup_keys_insert inductionHypothesis

theorem get?_ofList
    (assignments : List (Text × α))
    (key : Text) :
    (ofList assignments).get? key = assignments.reverse.lookup key := by
  induction assignments using List.reverseRecOn with
  | nil =>
      rfl
  | append_singleton earlier last inductionHypothesis =>
      rw [ofList_concat, get?_insert, inductionHypothesis,
        List.reverse_concat, lookup_cons_ite]

/-- The value of a key is that of the last assignment to it. -/
theorem get?_ofList_eq_some_iff :
    (ofList assignments).get? key = some value ↔
      ∃ earlier later,
        assignments = earlier ++ (key, value) :: later ∧
          ∀ assignment ∈ later, assignment.1 ≠ key := by
  rw [get?_ofList, List.lookup_eq_some_iff]
  constructor
  · rintro ⟨later, earlier, reversed, noneLater⟩
    refine ⟨earlier.reverse, later.reverse, ?_, ?_⟩
    · simpa using congrArg List.reverse reversed
    · intro assignment isLater same
      have different := noneLater assignment (List.mem_reverse.mp isLater)
      simp [same] at different
  · rintro ⟨earlier, later, rfl, noneLater⟩
    refine ⟨later.reverse, earlier.reverse, by simp, ?_⟩
    intro assignment isLater
    have different := noneLater assignment (List.mem_reverse.mp isLater)
    simpa using Ne.symm different

/-- A key without assignment has no value. -/
theorem get?_ofList_eq_none_iff :
    (ofList assignments).get? key = none ↔
      ∀ assignment ∈ assignments, assignment.1 ≠ key := by
  rw [get?_ofList, List.lookup_eq_none_iff]
  constructor
  · intro noneOfThem assignment member same
    have different := noneOfThem assignment (List.mem_reverse.mpr member)
    simp [same] at different
  · intro noneOfThem assignment member
    have different := noneOfThem assignment (List.mem_reverse.mp member)
    simpa using Ne.symm different

/-- Assignments to different keys are the entries of their map. -/
theorem entries_ofList_of_nodup
    (different : (assignments.map Prod.fst).Nodup) :
    (ofList assignments).entries = assignments := by
  -- From the last assignment backwards: its key is not among the ones before, so it is added at the end.
  induction assignments using List.reverseRecOn with
  | nil =>
      rfl
  | append_singleton earlier last inductionHypothesis =>
      rw [List.map_append, List.nodup_append] at different
      obtain ⟨earlierDifferent, _, isNew⟩ := different
      have missing : ¬ (ofList earlier).contains last.1 = true := by
        rw [contains, ← mem_keys_iff]
        intro member
        obtain ⟨assignment, isEarlier, same⟩ := mem_keys_of_mem_ofList member
        exact
          isNew assignment.1 (List.mem_map_of_mem isEarlier) last.1 (by simp)
            same
      rw [ofList_concat, insert, if_neg missing,
        inductionHypothesis earlierDifferent]

theorem isEmpty_ofList_iff :
    (ofList assignments).isEmpty = true ↔ assignments = [] := by
  induction assignments using List.reverseRecOn with
  | nil =>
      simp [ofList, isEmpty, empty]
  | append_singleton earlier last _ =>
      simp [ofList_concat, insert_isEmpty]

end TextMap

end AdFilter
