import AdFilter.Proofs.CachedParsing
import AdFilter.Proofs.TextMaps
import Mathlib.Data.List.Dedup
import Mathlib.Data.List.DropRight

namespace AdFilter

/-!
# Caches of limited size

A cache of limited size is a table of the texts that have been used most recently.  A use is what its callers see as
one: a rule that is put, one that is found, and one that is read.  What is not found and what is refused is no use.

The reason is an invariant: the keys of the cache, oldest first, are the last of the texts used since it was emptied,
each counted at its last use.  Every call leaves a cache of limited size alone, empties it, or puts a rule into it, as
the use of an entry comes to putting the entry once more.
-/

section MostRecent

variable {α : Type} [DecidableEq α] {before after uses : List α} {item : α} {size : Nat}

/-- The last few of the items that were used, each at its last use, the oldest first. -/
def mostRecent (size : Nat) (uses : List α) : List α :=
  uses.dedup.rtake size

/-- An item was used, and fewer than so many others have been used since its last use. -/
def UsedRecently (size : Nat) (uses : List α) (item : α) : Prop :=
  ∃ before after,
    uses = before ++ item :: after ∧
      item ∉ after ∧ after.dedup.length < size

@[simp] theorem mostRecent_nil
    (size : Nat) :
    mostRecent size ([] : List α) = [] :=
  List.rtake_nil size

theorem dedup_concat
    (uses : List α)
    (item : α) :
    (uses ++ [item]).dedup = uses.dedup.filter (· ≠ item) ++ [item] := by
  induction uses with
  | nil =>
      rfl
  | cons first rest inductionHypothesis =>
      by_cases same : first = item
      · subst same
        rw [List.cons_append, List.dedup_cons_of_mem (by simp),
          inductionHypothesis]
        by_cases again : first ∈ rest <;> simp [again]
      · by_cases again : first ∈ rest
        · rw [List.cons_append, List.dedup_cons_of_mem (by simp [again]),
            List.dedup_cons_of_mem again, inductionHypothesis]
        · rw [List.cons_append,
            List.dedup_cons_of_notMem (by simp [again, same]),
            List.dedup_cons_of_notMem again, inductionHypothesis]
          simp [same]

/-- To leave out an item among some and keep fewer of them, no more than those few and one need be looked at. -/
theorem take_filter_take_succ
    {items : List α}
    (nodup : items.Nodup)
    (item : α)
    (size : Nat) :
    ((items.take (size + 1)).filter (· ≠ item)).take size =
      (items.filter (· ≠ item)).take size := by
  induction items generalizing size with
  | nil =>
      rfl
  | cons first rest inductionHypothesis =>
      obtain ⟨notAgain, restNodup⟩ := List.nodup_cons.mp nodup
      rw [List.take_succ_cons]
      by_cases same : first = item
      · subst same
        have kept : rest.filter (· ≠ first) = rest := by
          rw [List.filter_eq_self]
          intro other member
          simpa using ne_of_mem_of_not_mem member notAgain
        have keptTake : (rest.take size).filter (· ≠ first) = rest.take size := by
          rw [List.filter_eq_self]
          intro other member
          simpa using ne_of_mem_of_not_mem (List.mem_of_mem_take member) notAgain
        rw [List.filter_cons_of_neg (by simp),
          List.filter_cons_of_neg (by simp), kept, keptTake,
          List.take_take, Nat.min_self]
      · cases size with
        | zero =>
            rfl
        | succ size =>
            have recursive := inductionHypothesis restNodup size
            simp [same] at recursive ⊢
            exact recursive

theorem rtake_filter_rtake_succ
    {items : List α}
    (nodup : items.Nodup)
    (item : α)
    (size : Nat) :
    ((items.rtake (size + 1)).filter (· ≠ item)).rtake size =
      (items.filter (· ≠ item)).rtake size := by
  have reversed :=
    take_filter_take_succ (List.nodup_reverse.mpr nodup) item size
  simp only [List.rtake_eq_reverse_take_reverse, List.filter_reverse,
    List.reverse_reverse] at reversed ⊢
  rw [reversed]

/-- One more use: the item moves to the end, and the oldest one may have to go. -/
theorem mostRecent_concat
    (size : Nat)
    (uses : List α)
    (item : α) :
    mostRecent (size + 1) (uses ++ [item]) =
      ((mostRecent (size + 1) uses).filter (· ≠ item)).rtake size ++
        [item] := by
  rw [mostRecent, dedup_concat, List.rtake_concat_succ, mostRecent,
    rtake_filter_rtake_succ uses.nodup_dedup]

omit [DecidableEq α] in
theorem mem_rtake_append_cons_iff
    (notAfter : item ∉ after) :
    item ∈ (before ++ item :: after).rtake size ↔ after.length < size := by
  rw [List.rtake, List.drop_append]
  constructor
  · intro member
    by_contra many
    have allBefore :
        before.length + 1 ≤ (before ++ item :: after).length - size := by
      simp only [List.length_append, List.length_cons]
      omega
    rw [List.drop_of_length_le (by omega), List.nil_append,
      List.drop_cons (by omega)] at member
    exact notAfter (List.mem_of_mem_drop member)
  · intro few
    have notAll :
        (before ++ item :: after).length - size - before.length = 0 := by
      simp only [List.length_append, List.length_cons]
      omega
    rw [notAll]
    simp

/-- An item is among the most recent ones exactly if it was used, and few others have been used since. -/
theorem mem_mostRecent_iff :
    item ∈ mostRecent size uses ↔ UsedRecently size uses item := by
  have at_last_use
      {before after : List α}
      (notAfter : item ∉ after) :
      item ∈ mostRecent size (before ++ item :: after) ↔
        after.dedup.length < size := by
    obtain ⟨others, shape⟩ :
        item :: after.dedup <:+ (before ++ item :: after).dedup := by
      rw [List.dedup_append, List.dedup_cons_of_notMem notAfter]
      exact List.suffix_union_right _ _
    rw [mostRecent, ← shape]
    exact mem_rtake_append_cons_iff (by simpa using notAfter)
  constructor
  · intro member
    have inUses : item ∈ uses :=
      List.mem_dedup.mp (List.mem_of_mem_drop member)
    obtain ⟨after, before, reversed, notAfter⟩ :=
      List.eq_append_cons_of_mem (List.mem_reverse.mpr inUses)
    have shape : uses = before.reverse ++ item :: after.reverse := by
      simpa using congrArg List.reverse reversed
    have notAfterReversed : item ∉ after.reverse := by
      simpa using notAfter
    subst shape
    exact
      ⟨before.reverse, after.reverse, rfl, notAfterReversed,
        (at_last_use notAfterReversed).mp member⟩
  · rintro ⟨before, after, rfl, notAfter, few⟩
    exact (at_last_use notAfter).mpr few

end MostRecent

/-! ## Calls -/

/-- A call on a cache. -/
inductive CacheCall where
  | get (text : Text)
  | put (text : Text) (rule : Rule)
  | clear
  | parse (strict : Bool) (text : Text)
  | readLine (strict : Bool) (text : Text)

namespace CacheCall

/-- The cache after a call. -/
def after (cache : RuleCache) : CacheCall → RuleCache
  | .get text => (cache.get text).2
  | .put text rule => cache.put text rule
  | .clear => cache.clear
  | .parse strict text => (cache.parse strict text).2
  | .readLine strict text => (cache.readLine strict text).2

/-- The text that a call uses: of a rule that is found or put, or of a text that is read and not refused. -/
def used? (cache : RuleCache) : CacheCall → Option Text
  | .get text => if (cache.get text).1.isSome then some text else none
  | .put text _ => some text
  | .clear => none
  | .parse strict text =>
      if (cache.parse strict text).1.isOk then some text else none
  | .readLine strict text =>
      if (cache.parse strict text).1.isOk then some text else none

/-- The rule that reading a text puts into a cache, with the text: one that is not found there and not refused. -/
def storedByParse? (cache : RuleCache) (strict : Bool) (text : Text) : Option (Text × Rule) :=
  if cache.contains text then
    none
  else
    match Rule.parse strict text with
    | .ok rule => some (text, rule)
    | .error _ => none

/-- The rule that a call puts into a cache, with its text. -/
def stored? (cache : RuleCache) : CacheCall → Option (Text × Rule)
  | .get _ => none
  | .put text rule => some (text, rule)
  | .clear => none
  | .parse strict text => storedByParse? cache strict text
  | .readLine strict text => storedByParse? cache strict text

end CacheCall

/-- A cache with what has happened to it: the texts used since it was last emptied, and all rules put into it. -/
structure CacheHistory where
  cache : RuleCache
  uses : List Text
  stores : List (Text × Rule)

namespace CacheHistory

/-- The texts used since the cache was last emptied, after one more call. -/
def usesAfter (history : CacheHistory) : CacheCall → List Text
  | .clear => []
  | call => history.uses ++ (call.used? history.cache).toList

/-- The history with one more call. -/
def extend (history : CacheHistory) (call : CacheCall) : CacheHistory where
  cache := call.after history.cache
  uses := history.usesAfter call
  stores := history.stores ++ (call.stored? history.cache).toList

/-- The history of calls on a cache that is new. -/
def ofCalls (cache : RuleCache) (calls : List CacheCall) : CacheHistory :=
  calls.foldl extend ⟨cache, [], []⟩

end CacheHistory

/-- A rule is the last one that was put for a text. -/
def IsLastStored (stores : List (Text × Rule)) (text : Text) (rule : Rule) : Prop :=
  ∃ earlier later,
    stores = earlier ++ (text, rule) :: later ∧
      ∀ store ∈ later, store.1 ≠ text

/-- A cache of limited size is a table of the most recently used texts. -/
structure CacheHistory.IsRecentTable (size : Nat) (history : CacheHistory) : Prop where
  present_iff :
    ∀ text,
      history.cache.contains text = true ↔
        UsedRecently size history.uses text
  value :
    ∀ text rule,
      history.cache.find? text = some rule →
        IsLastStored history.stores text rule
  size_le : history.cache.size ≤ size
  order :
    history.cache.entries.map Prod.fst = mostRecent size history.uses
  refused :
    ∀ strict text rejection,
      (history.cache.parse strict text).1 = .error rejection →
        (history.cache.parse strict text).2 = history.cache ∧
          (history.cache.readLine strict text).2 = history.cache

namespace RuleCache

variable {cache : RuleCache} {text : Text} {rule : Rule} {size : Nat} {strict : Bool}

/-! ## What calls do -/

theorem contains_iff_mem_keys :
    cache.contains text = true ↔ text ∈ cache.entries.map Prod.fst :=
  TextMap.lookup_isSome_iff_mem_keys cache.entries text

theorem keys_others
    (cache : RuleCache)
    (text : Text) :
    (cache.others text).map Prod.fst =
      (cache.entries.map Prod.fst).filter (· ≠ text) := by
  rw [List.filter_map]
  rfl

/-- Putting a rule moves its text to the end of the keys; one of the others may have to go. -/
theorem keys_put
    (limited : cache.limit = some (size + 1)) :
    (cache.put text rule).entries.map Prod.fst =
      ((cache.entries.map Prod.fst).filter (· ≠ text)).rtake size ++
        [text] := by
  have kept :
      (cache.put text rule).entries =
        (cache.others text).rtake size ++ [(text, rule)] := by
    rw [← List.rtake_concat_succ, put, limited]
    rfl
  rw [kept, ← keys_others, List.map_append, List.rtake, List.rtake,
    List.map_drop, List.length_map]
  rfl

/-- In a cache that is within its limit, the use of an entry comes to putting the entry once more. -/
theorem used_eq_put
    (limited : cache.limit = some size)
    (within : cache.entries.length ≤ size)
    (found : cache.find? text = some rule) :
    cache.used text rule = cache.put text rule := by
  have fewer : (cache.others text).length < cache.entries.length :=
    List.length_filter_lt_length_iff_exists.mpr
      ⟨(text, rule), mem_of_find? found, by simp⟩
  have nothingDropped :
      newest (some size) (cache.others text ++ [(text, rule)]) =
        cache.others text ++ [(text, rule)] := by
    have noExcess :
        (cache.others text ++ [(text, rule)]).length - size = 0 := by
      rw [List.length_append, List.length_singleton]
      omega
    rw [newest, noExcess, List.drop_zero]
  simp only [used, put, limited, nothingDropped]

theorem get_of_find?
    (found : cache.find? text = some rule) :
    cache.get text = (some rule, cache.used text rule) := by
  simp only [get, found]

theorem get_of_not_find?
    (missing : cache.find? text = none) :
    cache.get text = (none, cache) := by
  simp only [get, missing]

theorem parse_of_find?
    (found : cache.find? text = some rule) :
    cache.parse strict text = (.ok rule, cache.used text rule) := by
  simp only [parse, get_of_find? found]

theorem parse_of_not_find?
    (missing : cache.find? text = none) :
    cache.parse strict text =
      match Rule.parse strict text with
      | .ok rule => (.ok rule, cache.put text rule)
      | .error rejection => (.error rejection, cache) := by
  cases read : Rule.parse strict text <;>
    simp only [parse, get_of_not_find? missing, read]

/-- A text that is refused leaves the cache as it is. -/
theorem parse_snd_of_error
    {rejection : Rejection}
    (refused : (cache.parse strict text).1 = .error rejection) :
    (cache.parse strict text).2 = cache := by
  cases found : cache.find? text with
  | some rule =>
      rw [parse_of_find? found] at refused
      cases refused
  | none =>
      rw [parse_of_not_find? found] at refused ⊢
      cases read : Rule.parse strict text with
      | ok rule =>
          rw [read] at refused
          cases refused
      | error other =>
          rfl

end RuleCache

/-- All that a call may do to a cache of limited size. -/
inductive CacheCall.Effect (cache : RuleCache) (call : CacheCall) : Prop where
  | nothing
      (notClear : call ≠ .clear)
      (unchanged : call.after cache = cache)
      (noUse : call.used? cache = none)
      (noStore : call.stored? cache = none)
  | clears
      (isClear : call = .clear)
  | renews
      {text : Text}
      {rule : Rule}
      (putAgain : call.after cache = cache.put text rule)
      (use : call.used? cache = some text)
      (noStore : call.stored? cache = none)
      (found : cache.find? text = some rule)
  | stores
      {text : Text}
      {rule : Rule}
      (isPut : call.after cache = cache.put text rule)
      (use : call.used? cache = some text)
      (store : call.stored? cache = some (text, rule))

namespace CacheCall

variable {cache : RuleCache} {size : Nat}

/-- A text that is read is renewed if it is found, is stored if it is not, and is refused without effect. -/
theorem effect_of_parse
    {call : CacheCall}
    {strict : Bool}
    {text : Text}
    (limited : cache.limit = some size)
    (within : cache.entries.length ≤ size)
    (notClear : call ≠ .clear)
    (afterwards : call.after cache = (cache.parse strict text).2)
    (usedText :
      call.used? cache =
        if (cache.parse strict text).1.isOk then some text else none)
    (storedRule :
      call.stored? cache = storedByParse? cache strict text) :
    Effect cache call := by
  cases found : cache.find? text with
  | some rule =>
      rw [RuleCache.parse_of_find? found] at afterwards usedText
      rw [storedByParse?, RuleCache.contains, found] at storedRule
      exact
        .renews
          (afterwards.trans (RuleCache.used_eq_put limited within found))
          usedText storedRule found
  | none =>
      rw [RuleCache.parse_of_not_find? found] at afterwards usedText
      rw [storedByParse?, RuleCache.contains, found] at storedRule
      cases read : Rule.parse strict text with
      | ok rule =>
          rw [read] at afterwards usedText storedRule
          exact .stores afterwards usedText storedRule
      | error rejection =>
          rw [read] at afterwards usedText storedRule
          exact .nothing notClear afterwards usedText storedRule

theorem effect
    (limited : cache.limit = some size)
    (within : cache.entries.length ≤ size)
    (call : CacheCall) :
    Effect cache call := by
  cases call with
  | get text =>
      cases found : cache.find? text with
      | some rule =>
          have result := RuleCache.get_of_find? found
          refine .renews ?_ ?_ rfl found
          · rw [after, result]
            exact RuleCache.used_eq_put limited within found
          · rw [used?, result]
            rfl
      | none =>
          have result := RuleCache.get_of_not_find? found
          exact
            .nothing nofun (by rw [after, result])
              (by rw [used?, result]; rfl) rfl
  | put text rule =>
      exact .stores rfl rfl rfl
  | clear =>
      exact .clears rfl
  | parse strict text =>
      exact effect_of_parse limited within nofun rfl rfl rfl
  | readLine strict text =>
      exact effect_of_parse limited within nofun rfl rfl rfl

end CacheCall

/-! ## Histories -/

namespace IsLastStored

variable {stores : List (Text × Rule)} {text other : Text} {rule otherRule : Rule}

theorem concat_same
    (stores : List (Text × Rule))
    (text : Text)
    (rule : Rule) :
    IsLastStored (stores ++ [(text, rule)]) text rule :=
  ⟨stores, [], rfl, nofun⟩

theorem concat_other
    (isLast : IsLastStored stores text rule)
    (different : other ≠ text) :
    IsLastStored (stores ++ [(other, otherRule)]) text rule := by
  obtain ⟨earlier, later, rfl, noneLater⟩ := isLast
  refine ⟨earlier, later ++ [(other, otherRule)], by simp, ?_⟩
  intro store member
  rcases List.mem_append.mp member with isLater | isNew
  · exact noneLater store isLater
  · rw [List.mem_singleton.mp isNew]
    exact different

end IsLastStored

namespace CacheHistory

variable {history : CacheHistory} {size : Nat} {call : CacheCall}

/-- What every call keeps: the keys are the most recent texts, and the rules are the last ones put for them. -/
structure Tracks (size : Nat) (history : CacheHistory) : Prop where
  limited : history.cache.limit = some size
  keys :
    history.cache.entries.map Prod.fst = mostRecent size history.uses
  values :
    ∀ entry ∈ history.cache.entries,
      IsLastStored history.stores entry.1 entry.2

theorem Tracks.within
    (tracks : Tracks size history) :
    history.cache.entries.length ≤ size := by
  have sameLength := congrArg List.length tracks.keys
  rw [List.length_map, mostRecent, List.rtake, List.length_drop] at sameLength
  omega

theorem usesAfter_of_used?
    {text : Text}
    (use : call.used? history.cache = some text) :
    history.usesAfter call = history.uses ++ [text] := by
  cases call with
  | clear =>
      cases use
  | _ =>
      rw [usesAfter, use, Option.toList_some]
      exact nofun

theorem usesAfter_of_not_used?
    (notClear : call ≠ .clear)
    (noUse : call.used? history.cache = none) :
    history.usesAfter call = history.uses := by
  cases call with
  | clear =>
      exact absurd rfl notClear
  | _ =>
      rw [usesAfter, noUse, Option.toList_none, List.append_nil]
      exact nofun

/-- After a rule is put, the keys are the most recent texts again. -/
theorem Tracks.keys_put
    {text : Text}
    {rule : Rule}
    (tracks : Tracks (size + 1) history) :
    (history.cache.put text rule).entries.map Prod.fst =
      mostRecent (size + 1) (history.uses ++ [text]) := by
  rw [RuleCache.keys_put tracks.limited, tracks.keys, mostRecent_concat]

theorem tracks_new
    (size : Nat) :
    Tracks size ⟨.empty (some size), [], []⟩ where
  limited := rfl
  keys := (mostRecent_nil size).symm
  values := by
    intro entry member
    cases member

/-- One more call keeps the cache a table of the most recent texts. -/
theorem Tracks.extend
    (tracks : Tracks (size + 1) history)
    (call : CacheCall) :
    Tracks (size + 1) (history.extend call) := by
  cases call.effect tracks.limited tracks.within with
  | nothing notClear unchanged noUse noStore =>
      have same : history.extend call = history := by
        rw [CacheHistory.extend, unchanged,
          usesAfter_of_not_used? notClear noUse, noStore,
          Option.toList_none, List.append_nil]
      rw [same]
      exact tracks
  | clears isClear =>
      subst isClear
      exact ⟨tracks.limited, (mostRecent_nil _).symm, nofun⟩
  | @renews text rule putAgain use noStore found =>
      rw [CacheHistory.extend, putAgain, usesAfter_of_used? use, noStore,
        Option.toList_none, List.append_nil]
      refine ⟨tracks.limited, tracks.keys_put, ?_⟩
      intro entry member
      rcases List.mem_append.mp (RuleCache.mem_of_mem_newest member) with
        isOther | isRenewed
      · exact tracks.values entry (List.mem_filter.mp isOther).1
      · rw [List.mem_singleton.mp isRenewed]
        exact tracks.values (text, rule) (RuleCache.mem_of_find? found)
  | @stores text rule isPut use store =>
      rw [CacheHistory.extend, isPut, usesAfter_of_used? use, store,
        Option.toList_some]
      refine ⟨tracks.limited, tracks.keys_put, ?_⟩
      intro entry member
      rcases List.mem_append.mp (RuleCache.mem_of_mem_newest member) with
        isOther | isNew
      · obtain ⟨inCache, different⟩ := List.mem_filter.mp isOther
        exact
          (tracks.values entry inCache).concat_other
            (Ne.symm (by simpa using different))
      · rw [List.mem_singleton.mp isNew]
        exact IsLastStored.concat_same _ text rule

/-- Any number of calls keep the cache a table of the most recent texts. -/
theorem Tracks.foldl_extend
    (tracks : Tracks (size + 1) history)
    (calls : List CacheCall) :
    Tracks (size + 1) (calls.foldl CacheHistory.extend history) := by
  induction calls generalizing history with
  | nil =>
      exact tracks
  | cons first others inductionHypothesis =>
      exact inductionHypothesis (tracks.extend first)

theorem cache_foldl_extend
    (history : CacheHistory)
    (calls : List CacheCall) :
    (calls.foldl extend history).cache =
      calls.foldl CacheCall.after history.cache := by
  induction calls generalizing history with
  | nil =>
      rfl
  | cons first others inductionHypothesis =>
      exact inductionHypothesis (history.extend first)

theorem Tracks.isRecentTable
    (tracks : Tracks size history) :
    IsRecentTable size history where
  present_iff := by
    intro text
    rw [RuleCache.contains_iff_mem_keys, tracks.keys]
    exact mem_mostRecent_iff
  value := by
    intro text rule found
    exact tracks.values (text, rule) (RuleCache.mem_of_find? found)
  size_le := tracks.within
  order := tracks.keys
  refused := by
    intro strict text rejection refused
    have unchanged := RuleCache.parse_snd_of_error refused
    exact ⟨unchanged, unchanged⟩

end CacheHistory

/--
Whatever is called on a new cache of limited size, it is a table of the texts that have been used most recently since it
was emptied, with the last rule put for each of them, and what is refused leaves it as it is.
-/
theorem RuleCache.isRecentTable_ofCalls
    {size : Int}
    (positive : 1 ≤ size)
    (calls : List CacheCall) :
    ∃ cache,
      RuleCache.ofSize (.integer size) = .ok cache ∧
        (CacheHistory.ofCalls cache calls).cache =
          calls.foldl CacheCall.after cache ∧
        (CacheHistory.ofCalls cache calls).IsRecentTable size.toNat := by
  refine ⟨empty (some size.toNat), ?_, ?_, ?_⟩
  · rw [ofSize, limitOf, if_neg (Int.not_lt.mpr positive)]
  · exact CacheHistory.cache_foldl_extend _ calls
  · obtain ⟨others, shape⟩ : ∃ others, size.toNat = others + 1 :=
      ⟨size.toNat - 1, by omega⟩
    rw [shape]
    exact
      ((CacheHistory.tracks_new (others + 1)).foldl_extend calls).isRecentTable

/-- A text that was found again outlives one that was put after it; what is refused in between is no use. -/
theorem RuleCache.isRecentTable_ofCalls_renewed :
    ∃ cache,
      RuleCache.ofSize (.integer 2) = .ok cache ∧
        (CacheHistory.ofCalls cache
            [.readLine true "!a".toList, .put "b".toList (.comment "!".toList),
              .get "!a".toList, .parse false [], .parse false "!c".toList]).uses =
          ["!a".toList, "b".toList, "!a".toList, "!c".toList] ∧
        UsedRecently 2
          ["!a".toList, "b".toList, "!a".toList, "!c".toList] "!a".toList ∧
        ¬ UsedRecently 2
          ["!a".toList, "b".toList, "!a".toList, "!c".toList] "b".toList := by
  obtain ⟨cache, made, _, table⟩ :=
    isRecentTable_ofCalls (by decide : (1 : Int) ≤ 2)
      [.readLine true "!a".toList, .put "b".toList (.comment "!".toList),
        .get "!a".toList, .parse false [], .parse false "!c".toList]
  obtain rfl : empty (some 2) = cache := Except.ok.inj made
  exact
    ⟨_, made, rfl, (table.present_iff "!a".toList).mp rfl,
      fun recent => nomatch (table.present_iff "b".toList).mpr recent⟩

end AdFilter
