import AdFilter.Proofs.Positions

namespace AdFilter

/-!
# The meaning of regular expressions

An expression leads from a position of a text to another one.  This relation is what the search computes for sets of
positions, and it is what further proofs work with: an expression occurs in a text when it leads from some position
to another one.
-/

namespace Positions

theorem over?_eq_some_iff
    {rule : CaseRule}
    {set : CharSet}
    {text : Array Char}
    {start last : Nat} :
    over? rule set text start = some last ↔
      ∃ c,
        text[start]? = some c ∧
          set.holds rule c = true ∧
          last = start + 1 := by
  unfold over?
  cases found : text[start]? with
  | none =>
      simp
  | some c =>
      by_cases holds : set.holds rule c = true
      · simp only [holds, if_true, Option.some.injEq, exists_eq_left',
          true_and]
        exact eq_comm
      · simp [holds]

theorem over?_forward
    {rule : CaseRule}
    {set : CharSet}
    {text : Array Char}
    {start last : Nat}
    (passed : over? rule set text start = some last) :
    last = start + 1 ∧ last ≤ text.size := by
  obtain ⟨c, found, _, next⟩ := over?_eq_some_iff.mp passed
  obtain ⟨inside, _⟩ := Array.getElem?_eq_some_iff.mp found
  omega

/-- Passing one character at each of several positions keeps their order. -/
theorem increasing_filterMap_over?
    (rule : CaseRule)
    (set : CharSet)
    (text : Array Char)
    {positions : List Nat}
    (increasing : Increasing positions) :
    Increasing (positions.filterMap (over? rule set text)) := by
  refine List.Pairwise.filterMap _ ?_ increasing
  intro first second earlier firstLast firstPassed secondLast secondPassed
  have := over?_forward firstPassed
  have := over?_forward secondPassed
  omega

end Positions

namespace Regexp

/-- An expression leads from one position of a text to another one. -/
inductive Leads (rule : CaseRule) (text : Array Char) : Regexp → Nat → Nat → Prop where
  | empty (position : Nat) :
      Leads rule text .empty position position
  | one
      {set : CharSet}
      {start last : Nat}
      (passed : Positions.over? rule set text start = some last) :
      Leads rule text (.one set) start last
  | textStart :
      Leads rule text .textStart 0 0
  | textEnd :
      Leads rule text .textEnd text.size text.size
  | lastLineEnd
      {position : Nat}
      (atEnd : Positions.isLastLineEnd text position = true) :
      Leads rule text .lastLineEnd position position
  | wordBoundary
      {position : Nat}
      (atBoundary : Positions.isWordBoundary text position = true) :
      Leads rule text .wordBoundary position position
  | insideWord
      {position : Nat}
      (notEmpty : text.size ≠ 0)
      (inside : Positions.isWordBoundary text position = false) :
      Leads rule text .insideWord position position
  | notBefore
      {set : CharSet}
      {position : Nat}
      (stops : Positions.over? rule set text position = none) :
      Leads rule text (.notBefore set) position position
  | seq
      {first second : Regexp}
      {start middle last : Nat}
      (before : Leads rule text first start middle)
      (after : Leads rule text second middle last) :
      Leads rule text (.seq first second) start last
  | left
      {first second : Regexp}
      {start last : Nat}
      (leads : Leads rule text first start last) :
      Leads rule text (.either first second) start last
  | right
      {first second : Regexp}
      {start last : Nat}
      (leads : Leads rule text second start last) :
      Leads rule text (.either first second) start last
  | starEnd
      (body : Regexp)
      (position : Nat) :
      Leads rule text (.star body) position position
  | starMore
      {body : Regexp}
      {start middle last : Nat}
      (once : Leads rule text body start middle)
      (more : Leads rule text (.star body) middle last) :
      Leads rule text (.star body) start last

namespace Leads

variable {rule : CaseRule} {text : Array Char} {start last : Nat}

@[simp] theorem empty_iff :
    Leads rule text .empty start last ↔ last = start := by
  constructor
  · intro leads
    cases leads
    rfl
  · rintro rfl
    exact .empty last

@[simp] theorem one_iff
    {set : CharSet} :
    Leads rule text (.one set) start last ↔
      Positions.over? rule set text start = some last := by
  constructor
  · intro leads
    cases leads
    assumption
  · exact .one

@[simp] theorem textStart_iff :
    Leads rule text .textStart start last ↔ last = start ∧ start = 0 := by
  constructor
  · intro leads
    cases leads
    exact ⟨rfl, rfl⟩
  · intro condition
    rcases condition with ⟨rfl, rfl⟩
    exact .textStart

@[simp] theorem textEnd_iff :
    Leads rule text .textEnd start last ↔ last = start ∧ start = text.size := by
  constructor
  · intro leads
    cases leads
    exact ⟨rfl, rfl⟩
  · intro condition
    rcases condition with ⟨rfl, rfl⟩
    exact .textEnd

@[simp] theorem lastLineEnd_iff :
    Leads rule text .lastLineEnd start last ↔
      last = start ∧ Positions.isLastLineEnd text start = true := by
  constructor
  · intro leads
    cases leads
    exact ⟨rfl, by assumption⟩
  · intro condition
    rcases condition with ⟨rfl, atEnd⟩
    exact .lastLineEnd atEnd

@[simp] theorem wordBoundary_iff :
    Leads rule text .wordBoundary start last ↔
      last = start ∧ Positions.isWordBoundary text start = true := by
  constructor
  · intro leads
    cases leads
    exact ⟨rfl, by assumption⟩
  · intro condition
    rcases condition with ⟨rfl, atBoundary⟩
    exact .wordBoundary atBoundary

@[simp] theorem insideWord_iff :
    Leads rule text .insideWord start last ↔
      last = start ∧
        text.size ≠ 0 ∧
        Positions.isWordBoundary text start = false := by
  constructor
  · intro leads
    cases leads
    exact ⟨rfl, by assumption, by assumption⟩
  · intro condition
    rcases condition with ⟨rfl, notEmpty, inside⟩
    exact .insideWord notEmpty inside

@[simp] theorem notBefore_iff
    {set : CharSet} :
    Leads rule text (.notBefore set) start last ↔
      last = start ∧ Positions.over? rule set text start = none := by
  constructor
  · intro leads
    cases leads
    exact ⟨rfl, by assumption⟩
  · intro condition
    rcases condition with ⟨rfl, stops⟩
    exact .notBefore stops

@[simp] theorem seq_iff
    {first second : Regexp} :
    Leads rule text (.seq first second) start last ↔
      ∃ middle,
        Leads rule text first start middle ∧
          Leads rule text second middle last := by
  constructor
  · intro leads
    cases leads
    exact ⟨_, by assumption, by assumption⟩
  · intro condition
    obtain ⟨middle, before, after⟩ := condition
    exact .seq before after

@[simp] theorem either_iff
    {first second : Regexp} :
    Leads rule text (.either first second) start last ↔
      Leads rule text first start last ∨
        Leads rule text second start last := by
  constructor
  · intro leads
    cases leads with
    | left leads =>
        exact Or.inl leads
    | right leads =>
        exact Or.inr leads
  · intro condition
    rcases condition with leads | leads
    · exact .left leads
    · exact .right leads

/-- Repetitions of a body are steps of the body in a row. -/
theorem star_iff
    {body : Regexp} :
    Leads rule text (.star body) start last ↔
      Relation.ReflTransGen (Leads rule text body) start last := by
  constructor
  · intro leads
    generalize shape : Regexp.star body = repeated at leads
    induction leads with
    | starEnd other position =>
        exact .refl
    | starMore once _ _ inductionHypothesis =>
        cases shape
        exact .head once (inductionHypothesis rfl)
    | _ =>
        cases shape
  · intro steps
    induction steps using Relation.ReflTransGen.head_induction_on with
    | refl =>
        exact .starEnd body last
    | head once _ inductionHypothesis =>
        exact .starMore once inductionHypothesis

/-- An expression never leads back, and never out of the text. -/
theorem forward
    {expression : Regexp}
    (leads : Leads rule text expression start last)
    (inside : start ≤ text.size) :
    start ≤ last ∧ last ≤ text.size := by
  induction leads with
  | one passed =>
      have := Positions.over?_forward passed
      omega
  | seq _ _ beforeForward afterForward =>
      have := beforeForward inside
      have := afterForward this.2
      omega
  | starMore _ _ onceForward moreForward =>
      have := onceForward inside
      have := moreForward this.2
      omega
  | left _ inductionHypothesis =>
      exact inductionHypothesis inside
  | right _ inductionHypothesis =>
      exact inductionHypothesis inside
  | _ =>
      omega

end Leads

/--
From a set of positions the search arrives at a set of positions: the list that it returns is in order, and its
members are those that the expression leads to.
-/
def Arrives
    (rule : CaseRule)
    (text : Array Char)
    (expression : Regexp)
    (positions reached : List Nat) : Prop :=
  Positions.Increasing reached ∧
    ∀ last,
      last ∈ reached ↔
        ∃ start ∈ positions, Leads rule text expression start last

namespace Arrives

variable {rule : CaseRule} {text : Array Char} {positions : List Nat}

theorem within
    {expression : Regexp}
    {reached : List Nat}
    (arrives : Arrives rule text expression positions reached)
    (inside : Positions.Within text.size positions) :
    Positions.Within text.size reached := by
  intro last member
  obtain ⟨start, startMember, leads⟩ := (arrives.2 last).mp member
  exact (leads.forward (inside start startMember)).2

/-- An expression that only looks at the place where it stands filters the positions. -/
theorem filter
    {expression : Regexp}
    {holds : Nat → Bool}
    (looks :
      ∀ start last,
        Leads rule text expression start last ↔
          last = start ∧ holds start = true)
    (increasing : Positions.Increasing positions) :
    Arrives rule text expression positions (positions.filter holds) := by
  refine ⟨List.Pairwise.filter _ increasing, ?_⟩
  intro last
  simp only [List.mem_filter, looks]
  constructor
  · intro reached
    obtain ⟨member, holdsLast⟩ := reached
    exact ⟨last, member, rfl, holdsLast⟩
  · intro reached
    rcases reached with ⟨start, member, rfl, holdsStart⟩
    exact ⟨member, holdsStart⟩

/-- The second of two expressions arrives at what they lead to together, from where the first one arrives. -/
theorem seq
    {first second : Regexp}
    {middles reached : List Nat}
    (firstReached : Arrives rule text first positions middles)
    (secondReached : Arrives rule text second middles reached) :
    Arrives rule text (.seq first second) positions reached := by
  refine ⟨secondReached.1, ?_⟩
  intro last
  simp only [secondReached.2, firstReached.2, Leads.seq_iff]
  constructor
  · intro reached
    obtain ⟨middle, ⟨start, member, before⟩, after⟩ := reached
    exact ⟨start, member, middle, before, after⟩
  · intro reached
    obtain ⟨start, member, middle, before, after⟩ := reached
    exact ⟨middle, ⟨start, member, before⟩, after⟩

theorem either
    {first second : Regexp}
    {firstEnds secondEnds : List Nat}
    (firstReached : Arrives rule text first positions firstEnds)
    (secondReached : Arrives rule text second positions secondEnds) :
    Arrives rule text (.either first second) positions
      (Positions.union firstEnds secondEnds) := by
  refine ⟨Positions.increasing_union _ secondReached.1, ?_⟩
  intro last
  simp only [Positions.mem_union, firstReached.2, secondReached.2,
    Leads.either_iff]
  constructor
  · intro reached
    rcases reached with ⟨start, member, leads⟩ | ⟨start, member, leads⟩
    · exact ⟨start, member, Or.inl leads⟩
    · exact ⟨start, member, Or.inr leads⟩
  · intro reached
    rcases reached with ⟨start, member, leads | leads⟩
    · exact Or.inl ⟨start, member, leads⟩
    · exact Or.inr ⟨start, member, leads⟩

section Repetition

variable {body : Regexp} {move : List Nat → List Nat}

/-- What a position moves to is what the expression leads to, if it arrives there from single positions. -/
theorem moves_iff
    (bodyReached :
      ∀ start ≤ text.size, Arrives rule text body [start] (move [start]))
    {start next : Nat}
    (inside : start ≤ text.size) :
    Positions.Moves move start next ↔ Leads rule text body start next := by
  simpa [Positions.Moves] using (bodyReached start inside).2 next

/-- Moving by an expression never goes back, nor beyond the end of the text. -/
theorem forward
    (bodyReached :
      ∀ start ≤ text.size, Arrives rule text body [start] (move [start])) :
    Positions.Forward text.size move := by
  intro first inside next member
  exact ((moves_iff bodyReached inside).mp member).forward inside

theorem reflTransGen_moves_iff
    (bodyReached :
      ∀ start ≤ text.size, Arrives rule text body [start] (move [start]))
    {start last : Nat}
    (inside : start ≤ text.size) :
    Relation.ReflTransGen (Positions.Moves move) start last ↔
      Relation.ReflTransGen (Leads rule text body) start last := by
  have goesOn := forward bodyReached
  constructor
  · intro steps
    induction steps with
    | refl =>
        exact .refl
    | tail before moved inductionHypothesis =>
        have middle := goesOn.reflTransGen inside before
        exact
          inductionHypothesis.tail
            ((moves_iff bodyReached middle.2).mp moved)
  · intro steps
    induction steps with
    | refl =>
        exact .refl
    | tail _ leads inductionHypothesis =>
        have middle := goesOn.reflTransGen inside inductionHypothesis
        exact
          inductionHypothesis.tail
            ((moves_iff bodyReached middle.2).mpr leads)

/-- A repeated expression arrives at what repeated moves reach; a text leaves room for no more moves than it has positions. -/
theorem star
    (bodyReached :
      ∀ start ≤ text.size, Arrives rule text body [start] (move [start]))
    (increasing : Positions.Increasing positions)
    (within : Positions.Within text.size positions) :
    Arrives rule text (.star body) positions
      (Positions.closure move (text.size + 1) positions) := by
  have goesOn := forward bodyReached
  have enough :
      ∀ position ∈ positions, text.size < position + (text.size + 1) := by
    intro position _
    omega
  refine
    ⟨Positions.increasing_closure goesOn increasing within enough, ?_⟩
  intro last
  rw [Positions.mem_closure goesOn increasing within enough]
  refine exists_congr fun start => and_congr_right fun member => ?_
  rw [Leads.star_iff]
  exact reflTransGen_moves_iff bodyReached (within start member)

end Repetition

end Arrives

/-- The search computes the positions that an expression leads to. -/
theorem arrives_advance
    (rule : CaseRule)
    (text : Array Char)
    (expression : Regexp)
    {positions : List Nat}
    (increasing : Positions.Increasing positions)
    (within : Positions.Within text.size positions) :
    Arrives rule text expression positions
      (expression.advance rule text positions) := by
  induction expression generalizing positions with
  | empty =>
      exact ⟨increasing, fun last => by simp [advance]⟩
  | one set =>
      refine
        ⟨Positions.increasing_filterMap_over? rule set text increasing, ?_⟩
      intro last
      simp [advance]
  | textStart =>
      exact .filter (by simp) increasing
  | textEnd =>
      exact .filter (by simp) increasing
  | lastLineEnd =>
      exact .filter (by simp) increasing
  | wordBoundary =>
      exact .filter (by simp) increasing
  | insideWord =>
      exact .filter (by simp) increasing
  | notBefore set =>
      exact .filter (by simp) increasing
  | seq first second firstArrives secondArrives =>
      have firstReached := firstArrives increasing within
      have secondReached :=
        secondArrives firstReached.1 (firstReached.within within)
      exact firstReached.seq secondReached
  | either first second firstArrives secondArrives =>
      exact
        (firstArrives increasing within).either
          (secondArrives increasing within)
  | star body bodyArrives =>
      apply Arrives.star _ increasing within
      intro start inside
      exact
        bodyArrives (by simp [Positions.Increasing])
          (by simpa [Positions.Within] using inside)

/-- An expression occurs in a text when it leads from some position of the text to another one. -/
theorem occursIn_iff
    {rule : CaseRule}
    {expression : Regexp}
    {text : Text} :
    expression.occursIn rule text = true ↔
      ∃ start last,
        start ≤ text.length ∧
          Leads rule text.toArray expression start last := by
  have increasing :
      Positions.Increasing (List.range (text.length + 1)) :=
    List.pairwise_lt_range
  have within :
      Positions.Within text.toArray.size (List.range (text.length + 1)) := by
    intro position member
    have := List.mem_range.mp member
    simp only [List.size_toArray]
    omega
  have arrives :=
    arrives_advance rule text.toArray expression increasing within
  simp only [occursIn, ne_eq, decide_eq_true_eq,
    List.eq_nil_iff_forall_not_mem, not_forall, not_not, arrives.2,
    List.mem_range, Nat.lt_succ_iff]
  constructor
  · intro occurs
    obtain ⟨last, start, inside, leads⟩ := occurs
    exact ⟨start, last, inside, leads⟩
  · intro found
    obtain ⟨start, last, inside, leads⟩ := found
    exact ⟨last, start, inside, leads⟩

end Regexp

end AdFilter
