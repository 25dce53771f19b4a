import AdFilter.HitTable
import AdFilter.Proofs.TextMaps
import AdFilter.Rule.Basic
import Mathlib.Data.List.Dedup
import Mathlib.Data.List.DropRight

namespace AdFilter

/-!
# Clients that share a table of hits

Clients call a table of hits one after the other, in any order that keeps the order of each client's own calls.  The
table shows what a count over the calls so far shows: for each text the hits since it was last forgotten, and when the
last of them was.

Every call keeps this, so it holds after every run.  Without resets, a run that is complete has the calls of all clients
in some order, and a count does not see the order.
-/

/-- A call on a table of hits. -/
inductive HitCall where
  | hit (rule : Rule) (timestamp : Int)
  | look (rule : Rule)
  | reset (rule : Option Rule)
  deriving Repr, DecidableEq

namespace HitCall

/-- What a call answers, if it answers anything, and the table after it. -/
def run (table : HitTable) : HitCall → Option HitRecord × HitTable
  | .hit rule timestamp =>
      let (updated, next) := table.record rule.text timestamp
      (some updated, next)
  | .look rule => (some (table.get rule.text), table)
  | .reset rule => (none, table.reset (rule.map Rule.text))

/-- Whether the hits of the rules with a text are forgotten with a call. -/
def forgets (text : Text) : HitCall → Bool
  | .hit _ _ => false
  | .look _ => false
  | .reset none => true
  | .reset (some rule) => rule.text = text

/-- When a rule with a text was hit, if a call is such a hit. -/
def timeFor? (text : Text) : HitCall → Option Int
  | .hit rule timestamp => if rule.text = text then some timestamp else none
  | .look _ => none
  | .reset _ => none

/-- The text of the rule that was hit, if a call is a hit. -/
def hitText? : HitCall → Option Text
  | .hit rule _ => some rule.text
  | .look _ => none
  | .reset _ => none

/-- Whether a call is a reset. -/
def isReset : HitCall → Bool
  | .hit _ _ => false
  | .look _ => false
  | .reset _ => true

end HitCall

/-- The times at which rules with a text were hit, since their hits were last forgotten. -/
def hitTimes (text : Text) (history : List HitCall) : List Int :=
  (history.rtakeWhile fun call => !call.forgets text).filterMap
    (HitCall.timeFor? text)

/-- The texts of rules that have been hit since their hits were last forgotten, each once. -/
def hitTexts (history : List HitCall) : List Text :=
  (history.filterMap HitCall.hitText?).dedup.filter fun text =>
    hitTimes text history ≠ []

/-- The number of some hits, and the time of the last one. -/
def HitRecord.ofTimes (times : List Int) : HitRecord :=
  ⟨times.length, times.getLast?.getD 0⟩

/-- Clients with the calls that each of them is still to make, and the table they share. -/
structure HitClients where
  pending : List (List HitCall)
  table : HitTable

namespace HitClients

/-- Clients that have not called yet, with a new table. -/
def start (clients : List (List HitCall)) : HitClients :=
  ⟨clients, .empty⟩

/-- One of the clients makes its next call and gets an answer. -/
inductive Step : HitClients → HitCall → Option HitRecord → HitClients → Prop where
  | call
      (before after : List (List HitCall))
      (call : HitCall)
      (rest : List HitCall)
      (table : HitTable) :
      Step
        ⟨before ++ (call :: rest) :: after, table⟩
        call (call.run table).1
        ⟨before ++ rest :: after, (call.run table).2⟩

/-- Clients make calls one after the other, from a state on. -/
inductive Run (initial : HitClients) : List HitCall → HitClients → Prop where
  | nil :
      Run initial [] initial
  | concat
      {history : List HitCall}
      {state next : HitClients}
      {call : HitCall}
      {answer : Option HitRecord}
      (earlier : Run initial history state)
      (step : Step state call answer next) :
      Run initial (history ++ [call]) next

/-- No client has a call left to make. -/
def IsDone (state : HitClients) : Prop :=
  ∀ calls ∈ state.pending, calls = []

instance (state : HitClients) : Decidable state.IsDone :=
  inferInstanceAs (Decidable (∀ calls ∈ state.pending, calls = []))

end HitClients

/-! ## Counts over calls -/

section Histories

variable {history other : List HitCall} {text : Text}

theorem hitTimes_concat
    (text : Text)
    (history : List HitCall)
    (call : HitCall) :
    hitTimes text (history ++ [call]) =
      if call.forgets text then
        []
      else
        hitTimes text history ++ (call.timeFor? text).toList := by
  rw [hitTimes, List.rtakeWhile_concat]
  cases call.forgets text with
  | true =>
      rfl
  | false =>
      cases time : call.timeFor? text <;>
        simp [hitTimes, time]

theorem hitTimes_concat_hit
    (text : Text)
    (history : List HitCall)
    (rule : Rule)
    (timestamp : Int) :
    hitTimes text (history ++ [.hit rule timestamp]) =
      if text = rule.text then
        hitTimes text history ++ [timestamp]
      else
        hitTimes text history := by
  rw [hitTimes_concat]
  by_cases same : text = rule.text
  · simp [HitCall.forgets, HitCall.timeFor?, same]
  · simp [HitCall.forgets, HitCall.timeFor?, same, Ne.symm same]

theorem hitTimes_concat_look
    (text : Text)
    (history : List HitCall)
    (rule : Rule) :
    hitTimes text (history ++ [.look rule]) = hitTimes text history := by
  simp [hitTimes_concat, HitCall.forgets, HitCall.timeFor?]

theorem hitTimes_concat_resetAll
    (text : Text)
    (history : List HitCall) :
    hitTimes text (history ++ [.reset none]) = [] := by
  simp [hitTimes_concat, HitCall.forgets]

theorem hitTimes_concat_reset
    (text : Text)
    (history : List HitCall)
    (rule : Rule) :
    hitTimes text (history ++ [.reset (some rule)]) =
      if text = rule.text then [] else hitTimes text history := by
  simp [hitTimes_concat, HitCall.forgets, HitCall.timeFor?, eq_comm]

theorem mem_hitTexts_iff :
    text ∈ hitTexts history ↔ hitTimes text history ≠ [] := by
  rw [hitTexts, List.mem_filter, List.mem_dedup, decide_eq_true_iff,
    and_iff_right_iff_imp]
  intro hit
  obtain ⟨time, member⟩ := List.exists_mem_of_ne_nil _ hit
  obtain ⟨call, since, timed⟩ := List.mem_filterMap.mp member
  have called : call ∈ history :=
    (List.rtakeWhile_suffix _ history).subset since
  refine List.mem_filterMap.mpr ⟨call, called, ?_⟩
  cases call with
  | hit rule timestamp =>
      rw [HitCall.timeFor?] at timed
      split at timed
      · rename_i same
        rw [HitCall.hitText?, same]
      · cases timed
  | look rule =>
      cases timed
  | reset rule =>
      cases timed

theorem nodup_hitTexts
    (history : List HitCall) :
    (hitTexts history).Nodup :=
  (List.nodup_dedup _).filter _

/-- Without resets nothing is forgotten. -/
theorem hitTimes_of_no_reset
    (noReset : ∀ call ∈ history, call.isReset = false)
    (text : Text) :
    hitTimes text history = history.filterMap (HitCall.timeFor? text) := by
  have nothingForgotten :
      (history.rtakeWhile fun call => !call.forgets text) = history := by
    rw [List.rtakeWhile_eq_self_iff]
    intro call member
    cases call with
    | hit rule timestamp =>
        rfl
    | look rule =>
        rfl
    | reset rule =>
        cases noReset _ member
  rw [hitTimes, nothingForgotten]

/-- Without resets, the same calls in another order have the same hits in another order. -/
theorem hitTimes_perm
    (noReset : ∀ call ∈ history, call.isReset = false)
    (reordered : history.Perm other)
    (text : Text) :
    (hitTimes text history).Perm (hitTimes text other) := by
  have noResetOther : ∀ call ∈ other, call.isReset = false :=
    fun call member => noReset call (reordered.mem_iff.mpr member)
  rw [hitTimes_of_no_reset noReset, hitTimes_of_no_reset noResetOther]
  exact reordered.filterMap _

theorem hitTexts_perm
    (noReset : ∀ call ∈ history, call.isReset = false)
    (reordered : history.Perm other) :
    (hitTexts history).Perm (hitTexts other) := by
  rw [List.perm_ext_iff_of_nodup (nodup_hitTexts history) (nodup_hitTexts other)]
  intro text
  have sameTimes := hitTimes_perm noReset reordered text
  rw [mem_hitTexts_iff, mem_hitTexts_iff, ne_eq, ne_eq,
    ← List.perm_nil, ← List.perm_nil]
  exact not_congr ⟨sameTimes.symm.trans, sameTimes.trans⟩

end Histories

/-! ## What the table shows -/

namespace HitTable

variable {history : List HitCall} {table : HitTable}

/-- A table has what a count over the calls has: a record of each text that has been hit, and no other records. -/
structure Shows (table : HitTable) (history : List HitCall) : Prop where
  found :
    ∀ text,
      table.records.get? text =
        if hitTimes text history = [] then
          none
        else
          some (.ofTimes (hitTimes text history))
  nodup : table.records.keys.Nodup

theorem shows_empty : empty.Shows [] where
  found _ := rfl
  nodup := List.nodup_nil

/-- A hit answers what the table has afterwards for the text that was hit. -/
theorem record_fst
    (table : HitTable)
    (text : Text)
    (timestamp : Int) :
    (table.record text timestamp).1 =
      (table.record text timestamp).2.get text := by
  dsimp only [record]
  rw [HitTable.get, HitTable.get, TextMap.get?_insert, if_pos rfl, Option.getD_some]

theorem Shows.get
    (accurate : table.Shows history)
    (text : Text) :
    table.get text = .ofTimes (hitTimes text history) := by
  rw [HitTable.get, accurate.found]
  split
  · rename_i noHits
    rw [noHits]
    rfl
  · rfl

theorem Shows.size
    (accurate : table.Shows history) :
    table.size = (hitTexts history).length := by
  have sameTexts : table.records.keys.Perm (hitTexts history) := by
    rw [List.perm_ext_iff_of_nodup accurate.nodup (nodup_hitTexts history)]
    intro text
    rw [TextMap.mem_keys_iff, accurate.found, mem_hitTexts_iff]
    split
    · simp [*]
    · simp [*]
  rw [← sameTexts.length_eq, TextMap.keys, List.length_map]
  rfl

/-- A hit counts for the texts of its rule and for no others. -/
theorem Shows.record
    (accurate : table.Shows history)
    (rule : Rule)
    (timestamp : Int) :
    (table.record rule.text timestamp).2.Shows
      (history ++ [.hit rule timestamp]) := by
  have oneMore :
      (table.get rule.text).hit timestamp =
        .ofTimes (hitTimes rule.text history ++ [timestamp]) := by
    rw [accurate.get, HitRecord.hit, HitRecord.ofTimes, HitRecord.ofTimes]
    simp
  refine ⟨?_, TextMap.nodup_keys_insert accurate.nodup⟩
  intro text
  rw [HitTable.record, TextMap.get?_insert, hitTimes_concat_hit]
  by_cases same : text = rule.text
  · subst same
    simp [oneMore]
  · rw [if_neg same, if_neg same, accurate.found]

theorem Shows.reset
    (accurate : table.Shows history)
    (rule : Rule) :
    (table.reset (some rule.text)).Shows
      (history ++ [.reset (some rule)]) := by
  refine ⟨?_, TextMap.nodup_keys_erase accurate.nodup rule.text⟩
  intro text
  rw [HitTable.reset, TextMap.get?_erase, hitTimes_concat_reset]
  by_cases same : text = rule.text
  · rw [if_pos same, if_pos same, if_pos rfl]
  · rw [if_neg same, if_neg same, accurate.found]

/-- Every call keeps the table what a count over the calls shows. -/
theorem Shows.run
    (accurate : table.Shows history)
    (call : HitCall) :
    (call.run table).2.Shows (history ++ [call]) := by
  cases call with
  | hit rule timestamp =>
      exact accurate.record rule timestamp
  | look rule =>
      refine ⟨?_, accurate.nodup⟩
      intro text
      rw [hitTimes_concat_look]
      exact accurate.found text
  | reset rule =>
      cases rule with
      | none =>
          refine ⟨?_, List.nodup_nil⟩
          intro text
          rw [hitTimes_concat_resetAll, if_pos rfl]
          rfl
      | some rule =>
          exact accurate.reset rule

end HitTable

/-! ## Runs of clients -/

namespace HitClients

variable {clients : List (List HitCall)} {initial state next : HitClients}
  {history : List HitCall} {call : HitCall} {answer : Option HitRecord}

theorem Step.table_eq
    (step : Step state call answer next) :
    next.table = (call.run state.table).2 := by
  cases step
  rfl

theorem Step.answer_eq
    (step : Step state call answer next) :
    answer = (call.run state.table).1 := by
  cases step
  rfl

/-- A call that is made is one of those that were still to make. -/
theorem Step.pending_perm
    (step : Step state call answer next) :
    state.pending.flatten.Perm (call :: next.pending.flatten) := by
  cases step with
  | call before after call rest table =>
      rw [List.flatten_append, List.flatten_cons, List.flatten_append,
        List.flatten_cons]
      exact List.perm_middle

theorem Run.shows
    (run : Run (start clients) history state) :
    state.table.Shows history := by
  induction run with
  | nil =>
      exact HitTable.shows_empty
  | concat earlier step inductionHypothesis =>
      rw [step.table_eq]
      exact inductionHypothesis.run _

/-- No call is lost and none is made twice. -/
theorem Run.pending_perm
    (run : Run initial history state) :
    initial.pending.flatten.Perm (history ++ state.pending.flatten) := by
  induction run with
  | nil =>
      exact .refl _
  | concat earlier step inductionHypothesis =>
      rw [List.append_assoc, List.singleton_append]
      exact inductionHypothesis.trans (step.pending_perm.append_left _)

/-- A complete run has made the calls of all clients, in some order. -/
theorem Run.perm_of_isDone
    (run : Run (start clients) history state)
    (done : state.IsDone) :
    clients.flatten.Perm history := by
  have nothingPending : state.pending.flatten = [] :=
    List.flatten_eq_nil_iff.mpr done
  have reordered := run.pending_perm
  rw [nothingPending, List.append_nil] at reordered
  exact reordered

/-- As long as a client has a call left, some client can make its next call. -/
theorem exists_step_of_not_isDone
    (notDone : ¬ state.IsDone) :
    ∃ call answer next, Step state call answer next := by
  obtain ⟨pending, table⟩ := state
  simp only [IsDone, not_forall] at notDone
  obtain ⟨calls, member, left⟩ := notDone
  obtain ⟨before, after, rfl⟩ := List.append_of_mem member
  obtain ⟨call, rest, rfl⟩ := List.exists_cons_of_ne_nil left
  exact ⟨call, _, _, .call before after call rest table⟩

/-- Every run can be completed. -/
theorem Run.exists_isDone
    (run : Run initial history state) :
    ∃ more final, Run initial (history ++ more) final ∧ final.IsDone := by
  -- On the number of calls that are still to make: every step makes one of them.
  induction left : state.pending.flatten.length generalizing history state with
  | zero =>
      have done : state.IsDone :=
        List.flatten_eq_nil_iff.mp (List.length_eq_zero_iff.mp left)
      exact ⟨[], state, by rwa [List.append_nil], done⟩
  | succ fewer inductionHypothesis =>
      have notDone : ¬ state.IsDone := by
        intro done
        rw [List.flatten_eq_nil_iff.mpr done] at left
        cases left
      obtain ⟨call, answer, next, step⟩ := exists_step_of_not_isDone notDone
      have oneFewer : next.pending.flatten.length = fewer := by
        have sameLength := step.pending_perm.length_eq
        rw [left, List.length_cons] at sameLength
        omega
      obtain ⟨more, final, run, done⟩ :=
        inductionHypothesis (run.concat step) oneFewer
      rw [List.append_assoc] at run
      exact ⟨[call] ++ more, final, run, done⟩

/-- Without resets, two complete runs end with the same counts. -/
theorem Run.counts_eq_of_isDone
    {otherHistory : List HitCall}
    {other : HitClients}
    (noReset : ∀ call ∈ clients.flatten, call.isReset = false)
    (run : Run (start clients) history state)
    (otherRun : Run (start clients) otherHistory other)
    (done : state.IsDone)
    (otherDone : other.IsDone) :
    (∀ text, (state.table.get text).count = (other.table.get text).count) ∧
      state.table.size = other.table.size := by
  have calls := run.perm_of_isDone done
  have reordered : history.Perm otherHistory :=
    calls.symm.trans (otherRun.perm_of_isDone otherDone)
  have noResetMade : ∀ call ∈ history, call.isReset = false :=
    fun call member => noReset call (calls.mem_iff.mpr member)
  constructor
  · intro text
    rw [run.shows.get, otherRun.shows.get]
    exact (hitTimes_perm noResetMade reordered text).length_eq
  · rw [run.shows.size, otherRun.shows.size]
    exact (hitTexts_perm noResetMade reordered).length_eq

/--
However the calls of some clients interleave, the table they share shows after every call what a count over the calls
shows, a hit answers what would be looked up right after it, the calls can be completed, and without resets the counts
after all calls are the same.
-/
theorem counts_of_run
    (run : Run (start clients) history state) :
    (∀ rule : Rule,
        state.table.get rule.text =
          .ofTimes (hitTimes rule.text history)) ∧
      state.table.size = (hitTexts history).length ∧
      (∀ rule timestamp answer next,
        Step state (.hit rule timestamp) answer next →
          answer = ((HitCall.look rule).run next.table).1) ∧
      (∃ more final,
        Run (start clients) (history ++ more) final ∧ final.IsDone) ∧
      ((∀ call ∈ clients.flatten, call.isReset = false) →
        state.IsDone →
          ∀ otherHistory other,
            Run (start clients) otherHistory other → other.IsDone →
              (∀ rule : Rule,
                (state.table.get rule.text).count =
                  (other.table.get rule.text).count) ∧
                state.table.size = other.table.size) := by
  refine
    ⟨fun rule => run.shows.get rule.text, run.shows.size, ?_,
      run.exists_isDone, ?_⟩
  · intro rule timestamp answer next step
    rw [step.answer_eq, step.table_eq]
    exact congrArg some (state.table.record_fst rule.text timestamp)
  · intro noReset done otherHistory other otherRun otherDone
    obtain ⟨sameCounts, sameSize⟩ :=
      run.counts_eq_of_isDone noReset otherRun done otherDone
    exact ⟨fun rule => sameCounts rule.text, sameSize⟩

/-- Two clients hit two rules; in either order of their calls the counts are two and one, and the last hits differ. -/
theorem counts_of_run_two_clients :
    ∃ first second : Rule, first.text ≠ second.text ∧
      ∃ state other,
        Run (start [[.hit first 1, .hit second 2], [.hit first 3]])
            [.hit first 1, .hit second 2, .hit first 3] state ∧
          Run (start [[.hit first 1, .hit second 2], [.hit first 3]])
            [.hit first 3, .hit first 1, .hit second 2] other ∧
          state.table.get first.text = ⟨2, 3⟩ ∧
          other.table.get first.text = ⟨2, 1⟩ ∧
          (state.table.get second.text).count =
            (other.table.get second.text).count ∧
          state.table.size = other.table.size := by
  let first : Rule := .content ⟨"##a".toList, .hide, "a".toList, .empty, []⟩
  let second : Rule := .content ⟨"##b".toList, .hide, "b".toList, .empty, []⟩
  have begun :
      Run (start [[.hit first 1, .hit second 2], [.hit first 3]]) []
        (start [[.hit first 1, .hit second 2], [.hit first 3]]) :=
    .nil
  have run :=
    ((begun.concat
      (.call [] [[.hit first 3]] (.hit first 1) [.hit second 2] _)).concat
      (.call [] [[.hit first 3]] (.hit second 2) [] _)).concat
      (.call [[]] [] (.hit first 3) [] _)
  have otherRun :=
    ((begun.concat
      (.call [[.hit first 1, .hit second 2]] [] (.hit first 3) [] _)).concat
      (.call [] [[]] (.hit first 1) [.hit second 2] _)).concat
      (.call [] [[]] (.hit second 2) [] _)
  obtain ⟨counts, _, _, _, independent⟩ := counts_of_run run
  obtain ⟨otherCounts, _⟩ := counts_of_run otherRun
  obtain ⟨sameCounts, sameSize⟩ :=
    independent (by decide) (by decide) _ _ otherRun (by decide)
  exact
    ⟨first, second, by decide, _, _, run, otherRun, counts first,
      otherCounts first, sameCounts second, sameSize⟩

end HitClients

end AdFilter
