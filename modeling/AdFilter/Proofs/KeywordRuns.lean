import AdFilter.Pattern.Keyword
import AdFilter.Proofs.TextPieces
import Mathlib.Data.List.Sort

namespace AdFilter

/-!
# Keywords are the delimited runs

The keywords of a pattern are read in one pass over the lowered text.  No run begins inside of another one, and the
character that ends a run may also stand before the next one.  So the pass meets the runs in their order and each of them
once, also where a single delimiter stands between two of them.
-/

namespace Pattern

variable {text before run after otherBefore other otherAfter : Text}

/-! ## Runs of keyword characters -/

/--
A text has a keyword between two others: keyword characters that are as many as possible and at least two, neither at an
end of the text nor beside a wildcard.
-/
structure IsKeywordRun (text before run after : Text) : Prop where
  shape : text = before ++ (run ++ after)
  areChars : ∀ c ∈ run, isKeywordChar c = true
  beginsRun : ∀ c, before.getLast? = some c → isKeywordChar c = false
  endsRun : ∀ c, after.head? = some c → isKeywordChar c = false
  longEnough : 2 ≤ run.length
  notAtStart : before ≠ []
  notAtEnd : after ≠ []
  notAfterWildcard : before.getLast? ≠ some '*'
  notBeforeWildcard : after.head? ≠ some '*'

/-- Where a text has keyword characters up to another character, a run that begins among them is all of them. -/
theorem IsKeywordRun.eq_of_begins_among
    {c : Char}
    {front chars rest : Text}
    (isRun : IsKeywordRun text before run after)
    (shape : text = front ++ (chars ++ c :: rest))
    (areChars : ∀ d ∈ chars, isKeywordChar d = true)
    (noChar : isKeywordChar c = false)
    (notBefore : front.length ≤ before.length)
    (notAfter : before.length ≤ front.length + chars.length) :
    before = front ∧ run = chars ∧ after = c :: rest := by
  have same : before ++ (run ++ after) = front ++ (chars ++ c :: rest) :=
    isRun.shape.symm.trans shape
  obtain ⟨more, rfl⟩ : front <+: before :=
    List.prefix_of_prefix_length_le ⟨_, same.symm⟩
      (List.prefix_append before _) notBefore
  rw [List.append_assoc] at same
  have sameRest : more ++ (run ++ after) = chars ++ c :: rest :=
    List.append_cancel_left same
  have amongChars : more <+: chars := by
    apply
      List.prefix_of_prefix_length_le ⟨_, sameRest⟩
        (List.prefix_append chars _)
    rw [List.length_append] at notAfter
    omega
  -- Characters between the front and the run would be keyword characters just before it.
  have nothing : more = [] := by
    rcases List.eq_nil_or_concat' more with isNil | ⟨init, d, rfl⟩
    · exact isNil
    · have noKeyword : d ∉ chars :=
        Text.not_mem_of_forall areChars (isRun.beginsRun d (by simp))
      exact absurd (amongChars.mem (by simp)) noKeyword
  rw [nothing, List.nil_append] at sameRest
  refine ⟨by rw [nothing, List.append_nil], ?_⟩
  apply
    Text.append_inj_of_run isRun.areChars areChars
      (fun d first => by simp [isRun.endsRun d first]) ?_ sameRest
  intro d first
  rw [List.head?_cons, Option.some.injEq] at first
  simp [← first, noChar]

/-- A run that does not begin before another one is the same, or has at least a character between the other one and itself. -/
theorem IsKeywordRun.eq_or_apart
    (isRun : IsKeywordRun text before run after)
    (isRunAlso : IsKeywordRun text otherBefore other otherAfter)
    (notEarlier : before.length ≤ otherBefore.length) :
    otherBefore = before ∧ other = run ∧ otherAfter = after ∨
      before.length + run.length + 1 ≤ otherBefore.length := by
  obtain ⟨c, rest, rfl⟩ := List.exists_cons_of_ne_nil isRun.notAtEnd
  rcases Nat.lt_or_ge (before.length + run.length) otherBefore.length with
    apart | notApart
  · exact Or.inr apart
  · exact
      Or.inl
        (isRunAlso.eq_of_begins_among isRun.shape isRun.areChars
          (isRun.endsRun c rfl) notEarlier notApart)

/-! ## All runs in their order -/

/-- A list has the keyword runs of a text that begin at a place or after it, one after the other. -/
inductive RunsFrom (text : Text) : Nat → List Text → Prop where
  | none
      {place : Nat}
      (noRun :
        ∀ before run after, IsKeywordRun text before run after →
          before.length < place) :
      RunsFrom text place []
  | next
      {place : Nat}
      {before run after : Text}
      {later : List Text}
      (isRun : IsKeywordRun text before run after)
      (inside : place ≤ before.length)
      (first :
        ∀ otherBefore other otherAfter,
          IsKeywordRun text otherBefore other otherAfter →
            place ≤ otherBefore.length →
              before.length ≤ otherBefore.length)
      (others : RunsFrom text (before.length + run.length + 1) later) :
      RunsFrom text place (run :: later)

namespace RunsFrom

variable {place : Nat} {list : List Text}

/-- The runs from a place on are those from any other place that the same runs begin after. -/
theorem of_same_runs
    {otherPlace : Nat}
    (runs : RunsFrom text place list)
    (same :
      ∀ before run after, IsKeywordRun text before run after →
        (otherPlace ≤ before.length ↔ place ≤ before.length)) :
    RunsFrom text otherPlace list := by
  cases runs with
  | none noRun =>
      refine .none ?_
      intro before run after isRun
      have notInside := noRun before run after isRun
      have sameHere := same before run after isRun
      omega
  | next isRun inside first others =>
      refine .next isRun ((same _ _ _ isRun).mpr inside) ?_ others
      intro otherBefore other otherAfter isRunAlso insideAlso
      exact
        first otherBefore other otherAfter isRunAlso
          ((same _ _ _ isRunAlso).mp insideAlso)

/-- The members are the runs. -/
theorem mem_iff
    (runs : RunsFrom text place list)
    (word : Text) :
    word ∈ list ↔
      ∃ before after,
        IsKeywordRun text before word after ∧ place ≤ before.length := by
  induction runs with
  | @none place noRun =>
      refine iff_of_false (List.not_mem_nil) ?_
      intro found
      obtain ⟨before, after, isRun, inside⟩ := found
      exact absurd (noRun before word after isRun) (by omega)
  | @next place before run after later isRun inside first others inductionHypothesis =>
      rw [List.mem_cons, inductionHypothesis]
      constructor
      · intro member
        rcases member with rfl | ⟨otherBefore, otherAfter, isRunAlso, beyond⟩
        · exact ⟨before, after, isRun, inside⟩
        · exact ⟨otherBefore, otherAfter, isRunAlso, by omega⟩
      · intro found
        obtain ⟨otherBefore, otherAfter, isRunAlso, insideAlso⟩ := found
        have notEarlier :=
          first otherBefore word otherAfter isRunAlso insideAlso
        rcases isRun.eq_or_apart isRunAlso notEarlier with same | apart
        · exact Or.inl same.2.1
        · exact Or.inr ⟨otherBefore, otherAfter, isRunAlso, apart⟩

/-- A member that another text does not precede has a run before all runs of that text. -/
theorem exists_before
    {earlier later : List Text}
    {first second : Text}
    (runs : RunsFrom text place (earlier ++ first :: later))
    (notEarlier : second ∉ earlier)
    (different : second ≠ first) :
    ∃ before after,
      IsKeywordRun text before first after ∧
        ∀ otherBefore otherAfter,
          IsKeywordRun text otherBefore second otherAfter →
            place ≤ otherBefore.length →
              before.length < otherBefore.length := by
  -- On the members before the first text: each of them is passed by all runs of the second one.
  induction earlier generalizing place with
  | nil =>
      cases runs with
      | @next _ before _ after _ isRun inside isFirst others =>
          refine ⟨before, after, isRun, ?_⟩
          intro otherBefore otherAfter isRunAlso insideAlso
          have notBefore :=
            isFirst otherBefore second otherAfter isRunAlso insideAlso
          rcases isRun.eq_or_apart isRunAlso notBefore with same | apart
          · exact absurd same.2.1 different
          · omega
  | cons head others inductionHypothesis =>
      rw [List.mem_cons, not_or] at notEarlier
      cases runs with
      | @next _ headBefore _ headAfter _ isRun inside isFirst rest =>
          obtain ⟨before, after, isRunOfFirst, beforeAll⟩ :=
            inductionHypothesis rest notEarlier.2
          refine ⟨before, after, isRunOfFirst, ?_⟩
          intro otherBefore otherAfter isRunAlso insideAlso
          have notBefore :=
            isFirst otherBefore second otherAfter isRunAlso insideAlso
          rcases isRun.eq_or_apart isRunAlso notBefore with same | apart
          · exact absurd same.2.1 notEarlier.1
          · exact beforeAll otherBefore otherAfter isRunAlso apart

end RunsFrom

/-! ## The pass over a text -/

/-- A pass over a text has read a front that does not end in a keyword character, and keyword characters after it. -/
structure ScansRun
    (text front : Text) (delimited : Bool) (run rest : Text) : Prop where
  shape : text = front ++ (run.reverse ++ rest)
  areChars : ∀ c ∈ run, isKeywordChar c = true
  beginsRun : ∀ c, front.getLast? = some c → isKeywordChar c = false
  delimited_iff :
    delimited = true ↔ front ≠ [] ∧ front.getLast? ≠ some '*'

namespace ScansRun

variable {c : Char} {front rest : Text} {delimited : Bool}

theorem start
    (text : Text) :
    ScansRun text [] false [] text :=
  ⟨rfl, by simp, by simp, by simp⟩

/-- The run goes on with a keyword character. -/
theorem more
    (scans : ScansRun text front delimited run (c :: rest))
    (isOne : isKeywordChar c = true) :
    ScansRun text front delimited (c :: run) rest := by
  refine ⟨by simp [scans.shape], ?_, scans.beginsRun, scans.delimited_iff⟩
  simpa [isOne] using scans.areChars

/-- After any other character a new run may begin. -/
theorem past
    (scans : ScansRun text front delimited run (c :: rest))
    (noChar : isKeywordChar c = false) :
    ScansRun text (front ++ (run.reverse ++ [c])) (c ≠ '*') [] rest := by
  have last : (front ++ (run.reverse ++ [c])).getLast? = some c := by
    simp [← List.append_assoc]
  refine ⟨by simp [scans.shape], by simp, ?_, ?_⟩
  · intro d isLast
    rw [last, Option.some.injEq] at isLast
    rwa [← isLast]
  · simp [last]

/-- No run begins in the keyword characters at the end of a text or after them. -/
theorem length_lt_of_end
    (scans : ScansRun text front delimited run [])
    (isRun : IsKeywordRun text before other after) :
    before.length < front.length := by
  by_contra notEarlier
  obtain ⟨c, rest, rfl⟩ := List.exists_cons_of_ne_nil isRun.notAtEnd
  have same : before ++ (other ++ c :: rest) = front ++ run.reverse := by
    rw [← isRun.shape, scans.shape, List.append_nil]
  obtain ⟨more, rfl⟩ : front <+: before :=
    List.prefix_of_prefix_length_le ⟨_, same.symm⟩
      (List.prefix_append before _) (Nat.le_of_not_lt notEarlier)
  rw [List.append_assoc] at same
  have sameRest : more ++ (other ++ c :: rest) = run.reverse :=
    List.append_cancel_left same
  have inRun : c ∈ run := by
    rw [← List.mem_reverse, ← sameRest]
    simp
  exact Text.not_mem_of_forall scans.areChars (isRun.endsRun c rfl) inRun

/-- What has been read up to another character is a keyword exactly if the pass takes it for one. -/
theorem isKeywordRun_iff
    (scans : ScansRun text front delimited run (c :: rest))
    (noChar : isKeywordChar c = false) :
    IsKeywordRun text front run.reverse (c :: rest) ↔
      (delimited && leastKeywordLength ≤ run.length && c ≠ '*') = true := by
  simp only [Bool.and_eq_true, decide_eq_true_eq, scans.delimited_iff]
  constructor
  · intro isRun
    refine ⟨⟨⟨isRun.notAtStart, isRun.notAfterWildcard⟩, ?_⟩, ?_⟩
    · simpa [leastKeywordLength] using isRun.longEnough
    · simpa using isRun.notBeforeWildcard
  · intro condition
    obtain ⟨⟨⟨notAtStart, notAfterWildcard⟩, longEnough⟩, noWildcard⟩ :=
      condition
    refine
      { shape := scans.shape
        areChars := by simpa using scans.areChars
        beginsRun := scans.beginsRun
        endsRun := ?_
        longEnough := by simpa [leastKeywordLength] using longEnough
        notAtStart := notAtStart
        notAtEnd := List.cons_ne_nil c rest
        notAfterWildcard := notAfterWildcard
        notBeforeWildcard := by simpa using noWildcard }
    intro d first
    rw [List.head?_cons, Option.some.injEq] at first
    rwa [← first]

/-- The rest of a pass finds the runs that begin after the front, one after the other. -/
theorem runsFrom_keywordsFrom
    (scans : ScansRun text front delimited run rest) :
    RunsFrom text front.length (keywordsFrom delimited run rest) := by
  induction rest generalizing front delimited run with
  | nil =>
      exact .none fun _ _ _ isRun => scans.length_lt_of_end isRun
  | cons c rest inductionHypothesis =>
      cases isOne : isKeywordChar c with
      | true =>
          rw [keywordsFrom, if_pos isOne]
          exact inductionHypothesis (scans.more isOne)
      | false =>
          have later := inductionHypothesis (scans.past isOne)
          have length :
              (front ++ (run.reverse ++ [c])).length =
                front.length + run.reverse.length + 1 := by
            simp [Nat.add_assoc]
          rw [length] at later
          -- A run that begins before the rest can only be what has been read.
          have onlyRead
              {otherBefore other otherAfter : Text}
              (isRun : IsKeywordRun text otherBefore other otherAfter)
              (inside : front.length ≤ otherBefore.length)
              (early :
                otherBefore.length ≤ front.length + run.reverse.length) :
              IsKeywordRun text front run.reverse (c :: rest) := by
            obtain ⟨rfl, rfl, rfl⟩ :=
              isRun.eq_of_begins_among scans.shape
                (by simpa using scans.areChars) isOne inside early
            exact isRun
          have found := scans.isKeywordRun_iff isOne
          simp only [keywordsFrom, isOne, Bool.false_eq_true, if_false]
          split
          · rename_i isKeyword
            refine .next (found.mpr isKeyword) le_rfl ?_ later
            exact fun _ _ _ _ inside => inside
          · rename_i noKeyword
            refine later.of_same_runs ?_
            intro otherBefore other otherAfter isRun
            refine ⟨?_, by omega⟩
            intro inside
            by_contra early
            exact
              noKeyword
                (found.mp (onlyRead isRun inside (by omega)))

end ScansRun

/-- The pass over a text finds its keyword runs. -/
theorem runsFrom_keywordsFrom
    (text : Text) :
    RunsFrom text 0 (keywordsFrom false [] text) :=
  (ScansRun.start text).runsFrom_keywordsFrom

/-! ## Without repetition -/

/-- Without its repetitions a list keeps the order in which its members occur first. -/
theorem pairwise_eraseDups
    (list : List Text) :
    list.eraseDups.Pairwise fun first second =>
      ∃ earlier later,
        list = earlier ++ first :: later ∧
          second ∉ earlier ∧ second ≠ first := by
  match list with
  | [] =>
      simp
  | head :: others =>
      have inductionHypothesis :=
        pairwise_eraseDups (others.filter fun word => !word == head)
      rw [List.eraseDups_cons]
      refine .cons ?_ (inductionHypothesis.imp_of_mem ?_)
      · intro second member
        refine ⟨[], others, rfl, List.not_mem_nil, ?_⟩
        have kept := (List.mem_filter.mp (List.mem_eraseDups.mp member)).2
        simpa using kept
      · intro first second _ member order
        obtain ⟨earlier, later, shape, notEarlier, different⟩ := order
        have kept :=
          (List.mem_filter.mp (List.mem_eraseDups.mp member)).2
        -- What was left out before the first one is the head, which the second one is not.
        obtain ⟨front, back, rfl, rfl, backShape⟩ :=
          List.filter_eq_append_iff.mp shape
        obtain ⟨between, rest, rfl, leftOut, _, _⟩ :=
          List.filter_eq_cons_iff.mp backShape
        refine
          ⟨head :: (front ++ between), rest, by simp, ?_, different⟩
        rw [List.mem_cons, List.mem_append, not_or, not_or]
        refine ⟨by simpa using kept, ?_, ?_⟩
        · intro inFront
          exact notEarlier (List.mem_filter.mpr ⟨inFront, kept⟩)
        · intro isBetween
          exact leftOut second isBetween kept
termination_by list.length
decreasing_by
  exact Nat.lt_succ_of_le (List.length_filter_le _ others)

/--
A list has the keywords of a lowered text, without repetition and in the order of their first runs.
-/
structure ListsKeywords (lowered : Text) (list : List Text) : Prop where
  noRepetition : list.Nodup
  mem_iff :
    ∀ word, word ∈ list ↔
      ∃ before after, IsKeywordRun lowered before word after
  ordered :
    list.Pairwise fun first second =>
      ∃ before after,
        IsKeywordRun lowered before first after ∧
          ∀ otherBefore otherAfter,
            IsKeywordRun lowered otherBefore second otherAfter →
              before.length < otherBefore.length

/-- The runs of a text without repetition are its keywords. -/
theorem RunsFrom.listsKeywords
    {list : List Text}
    (runs : RunsFrom text 0 list) :
    ListsKeywords text list.eraseDups := by
  have order := pairwise_eraseDups list
  refine ⟨?_, ?_, ?_⟩
  · apply order.imp
    intro first second occurs
    obtain ⟨_, _, _, _, different⟩ := occurs
    exact different.symm
  · intro word
    rw [List.mem_eraseDups, runs.mem_iff]
    simp
  · apply order.imp
    intro first second occurs
    obtain ⟨earlier, later, shape, notEarlier, different⟩ := occurs
    rw [shape] at runs
    obtain ⟨before, after, isRun, beforeAll⟩ :=
      runs.exists_before notEarlier different
    refine ⟨before, after, isRun, ?_⟩
    intro otherBefore otherAfter isRunAlso
    exact beforeAll otherBefore otherAfter isRunAlso (Nat.zero_le _)

theorem listsKeywords_keywords
    (text : Text) :
    ListsKeywords (Text.lower text) (keywords text) :=
  (runsFrom_keywordsFrom (Text.lower text)).listsKeywords

theorem mem_keywords_iff
    {keyword : Text} :
    keyword ∈ keywords text ↔
      ∃ before after,
        IsKeywordRun (Text.lower text) before keyword after :=
  (listsKeywords_keywords text).mem_iff keyword

/-- The keywords of a text have one list only. -/
theorem ListsKeywords.unique
    {first second : List Text}
    (lists : ListsKeywords text first)
    (listsAlso : ListsKeywords text second) :
    first = second := by
  have sameMembers : first.Perm second := by
    apply
      (List.perm_ext_iff_of_nodup lists.noRepetition
        listsAlso.noRepetition).mpr
    intro word
    rw [lists.mem_iff, listsAlso.mem_iff]
  apply sameMembers.eq_of_pairwise ?_ lists.ordered listsAlso.ordered
  intro word other _ _ wordFirst otherFirst
  -- Of two texts only one has the first run of both.
  obtain ⟨before, after, isRun, beforeAll⟩ := wordFirst
  obtain ⟨otherBefore, otherAfter, isRunAlso, beforeAllAlso⟩ := otherFirst
  have isBefore := beforeAll otherBefore otherAfter isRunAlso
  have isAfter := beforeAllAlso before after isRun
  omega

end Pattern

end AdFilter
