import Mathlib
import AdFilter.Regexp.Basic

namespace AdFilter

/-!
# Sets of positions

The positions that an expression reaches are kept as increasing lists.  This module shows that the operations on
such lists are the operations on sets that they stand for.  The closure is computed with a fixed number of steps;
moves never go back and never leave the text, so that this number is always large enough.
-/

namespace Positions

/-- A list of positions in increasing order. -/
def Increasing (positions : List Nat) : Prop :=
  positions.Pairwise (· < ·)

/-- The positions of a list are positions of a text with a number of characters. -/
def Within (limit : Nat) (positions : List Nat) : Prop :=
  ∀ position ∈ positions, position ≤ limit

/-- A move that neither goes back nor leaves a text. -/
def Forward (limit : Nat) (move : List Nat → List Nat) : Prop :=
  ∀ first ≤ limit, ∀ next ∈ move [first], first ≤ next ∧ next ≤ limit

/-- One position is reached from another one by moving once. -/
def Moves (move : List Nat → List Nat) (first next : Nat) : Prop :=
  next ∈ move [first]

@[simp] theorem mem_insert
    {position other : Nat}
    {positions : List Nat} :
    other ∈ insert position positions ↔
      other = position ∨ other ∈ positions := by
  induction positions with
  | nil =>
      simp [insert]
  | cons first others inductionHypothesis =>
      by_cases before : position < first
      · simp [insert, before]
      · by_cases same : position = first
        · subst same
          simp [insert]
        · simp only [insert, before, same, if_false, List.mem_cons,
            inductionHypothesis]
          tauto

theorem increasing_insert
    (position : Nat)
    {positions : List Nat}
    (increasing : Increasing positions) :
    Increasing (insert position positions) := by
  induction positions with
  | nil =>
      simp [insert, Increasing]
  | cons first others inductionHypothesis =>
      obtain ⟨firstLeast, othersIncreasing⟩ :=
        List.pairwise_cons.mp increasing
      by_cases before : position < first
      · simp only [insert, before, if_true]
        refine List.pairwise_cons.mpr ⟨?_, increasing⟩
        intro other member
        rcases List.mem_cons.mp member with isFirst | inOthers
        · omega
        · have := firstLeast other inOthers
          omega
      · by_cases same : position = first
        · simpa [insert, same] using increasing
        · simp only [insert, before, same, if_false]
          refine List.pairwise_cons.mpr
            ⟨?_, inductionHypothesis othersIncreasing⟩
          intro other member
          rcases mem_insert.mp member with isNew | inOthers
          · omega
          · exact firstLeast other inOthers

@[simp] theorem mem_union
    {position : Nat}
    {first second : List Nat} :
    position ∈ union first second ↔
      position ∈ first ∨ position ∈ second := by
  induction first with
  | nil =>
      simp [union]
  | cons head rest inductionHypothesis =>
      have step :
          union (head :: rest) second =
            insert head (union rest second) :=
        rfl
      rw [step, mem_insert, inductionHypothesis, List.mem_cons]
      tauto

theorem increasing_union
    (first : List Nat)
    {second : List Nat}
    (increasing : Increasing second) :
    Increasing (union first second) := by
  induction first with
  | nil =>
      exact increasing
  | cons head rest inductionHypothesis =>
      exact increasing_insert head inductionHypothesis

/-- Moving on any number of times neither goes back nor leaves the text. -/
theorem Forward.reflTransGen
    {limit : Nat}
    {move : List Nat → List Nat}
    (forward : Forward limit move)
    {first last : Nat}
    (inside : first ≤ limit)
    (moves : Relation.ReflTransGen (Moves move) first last) :
    first ≤ last ∧ last ≤ limit := by
  induction moves with
  | refl =>
      exact ⟨Nat.le_refl first, inside⟩
  | tail _ moved inductionHypothesis =>
      have := forward _ inductionHypothesis.2 _ moved
      omega

/--
Moves from a position end there, or they lead on from a later position that one move reaches: moves that
stay where they are can be left out.
-/
theorem Forward.reflTransGen_cases
    {limit : Nat}
    {move : List Nat → List Nat}
    (forward : Forward limit move)
    {first last : Nat}
    (inside : first ≤ limit)
    (moves : Relation.ReflTransGen (Moves move) first last) :
    last = first ∨
      ∃ next,
        Moves move first next ∧
          first < next ∧
          Relation.ReflTransGen (Moves move) next last := by
  induction moves with
  | refl =>
      exact Or.inl rfl
  | @tail middle last _ moved inductionHypothesis =>
      rcases inductionHypothesis with isFirst | ⟨next, reached, later, onward⟩
      · subst isFirst
        have := forward middle inside last moved
        by_cases same : last = middle
        · exact Or.inl same
        · exact Or.inr ⟨last, moved, by omega, .refl⟩
      · exact Or.inr ⟨next, reached, later, onward.tail moved⟩

/-- What is left to do after the step at the first position lies behind it and inside the text. -/
theorem Forward.mem_left
    {limit : Nat}
    {move : List Nat → List Nat}
    (forward : Forward limit move)
    {first : Nat}
    {others : List Nat}
    (increasing : Increasing (first :: others))
    (within : Within limit (first :: others))
    {position : Nat}
    (member :
      position ∈ union ((move [first]).filter (first < ·)) others) :
    first < position ∧ position ≤ limit := by
  rcases mem_union.mp member with moved | inOthers
  · obtain ⟨reached, later⟩ := List.mem_filter.mp moved
    have inside := forward first (within first (by simp)) position reached
    exact ⟨by simpa using later, inside.2⟩
  · exact
      ⟨(List.pairwise_cons.mp increasing).1 position inOthers,
        within position (by simp [inOthers])⟩

/--
The closure holds the positions that moves reach.  Every step is done with the least position that is left, so
a number of steps above the distance to the end of the text is enough.
-/
theorem mem_closure
    {limit : Nat}
    {move : List Nat → List Nat}
    (forward : Forward limit move)
    {steps : Nat}
    {positions : List Nat}
    (increasing : Increasing positions)
    (within : Within limit positions)
    (enough : ∀ position ∈ positions, limit < position + steps)
    {last : Nat} :
    last ∈ closure move steps positions ↔
      ∃ first ∈ positions,
        Relation.ReflTransGen (Moves move) first last := by
  induction steps generalizing positions with
  | zero =>
      have none : positions = [] := by
        refine List.eq_nil_iff_forall_not_mem.mpr ?_
        intro position member
        have := within position member
        have := enough position member
        omega
      simp [none, closure]
  | succ steps inductionHypothesis =>
      cases positions with
      | nil =>
          simp [closure]
      | cons first others =>
          have firstInside : first ≤ limit :=
            within first (by simp)
          have firstSteps := enough first (by simp)
          have rest :=
            inductionHypothesis
              (increasing_union _ (List.pairwise_cons.mp increasing).2)
              (fun _ member => (forward.mem_left increasing within member).2)
              (fun _ member => by
                have := forward.mem_left increasing within member
                omega)
          rw [closure, List.mem_cons, rest]
          constructor
          · intro reached
            rcases reached with isFirst | ⟨position, member, moves⟩
            · exact ⟨first, by simp, isFirst ▸ .refl⟩
            · rcases mem_union.mp member with moved | inOthers
              · have reached := (List.mem_filter.mp moved).1
                exact ⟨first, by simp, .head reached moves⟩
              · exact ⟨position, by simp [inOthers], moves⟩
          · intro reached
            obtain ⟨position, member, moves⟩ := reached
            rcases List.mem_cons.mp member with isFirst | inOthers
            · subst isFirst
              rcases forward.reflTransGen_cases firstInside moves with
                same | ⟨next, reached, later, onward⟩
              · exact Or.inl same
              · have kept :
                    next ∈ (move [position]).filter (position < ·) :=
                  List.mem_filter.mpr ⟨reached, by simpa using later⟩
                exact Or.inr
                  ⟨next, mem_union.mpr (Or.inl kept), onward⟩
            · exact Or.inr
                ⟨position, mem_union.mpr (Or.inr inOthers), moves⟩

/-- The closure is in order, because what is reached from later positions comes later. -/
theorem increasing_closure
    {limit : Nat}
    {move : List Nat → List Nat}
    (forward : Forward limit move)
    {steps : Nat}
    {positions : List Nat}
    (increasing : Increasing positions)
    (within : Within limit positions)
    (enough : ∀ position ∈ positions, limit < position + steps) :
    Increasing (closure move steps positions) := by
  induction steps generalizing positions with
  | zero =>
      exact increasing
  | succ steps inductionHypothesis =>
      cases positions with
      | nil =>
          simp [closure, Increasing]
      | cons first others =>
          have firstSteps := enough first (by simp)
          have leftIncreasing :=
            increasing_union ((move [first]).filter (first < ·))
              (List.pairwise_cons.mp increasing).2
          have leftWithin : Within limit (union ((move [first]).filter (first < ·)) others) :=
            fun _ member => (forward.mem_left increasing within member).2
          have leftEnough :
              ∀ position ∈ union ((move [first]).filter (first < ·)) others,
                limit < position + steps := by
            intro position member
            have := forward.mem_left increasing within member
            omega
          rw [closure]
          refine List.pairwise_cons.mpr
            ⟨?_, inductionHypothesis leftIncreasing leftWithin leftEnough⟩
          intro last member
          obtain ⟨position, isLeft, moves⟩ :=
            (mem_closure forward leftIncreasing leftWithin leftEnough).mp member
          have later := forward.mem_left increasing within isLeft
          have onward := forward.reflTransGen later.2 moves
          omega

end Positions

end AdFilter
