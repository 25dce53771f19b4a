import AdFilter.Proofs.DomainLabels

namespace AdFilter

/-!
# Walking up a domain

The names that a domain is looked up under are found by a walk.  While the name that the walk has come to has a point, the
name is noted and the walk goes on to what follows its first point; the name without a point is the last one.  Each turn
takes one point away, so the walk ends after as many turns as the domain has points.  What is noted, together with what is
still to come, is the same before and after a turn: no point at the start or the end and no two points in a row let the
walk leave out a name or come to one twice.

The names on the walk are those that cover the domain.  The walk that decides about a domain and the comparison that
tells the parties of a request apart therefore go by one relation.
-/

namespace Domain

/-- A walk on its way up a domain: the names that it has noted, and the one that it has come to. -/
structure Walk where
  noted : List Text
  name : Text
  deriving Repr, DecidableEq

namespace Walk

variable {walk next last : Walk} {turns : Nat} {domain name : Text}

/-- The walk up a domain before its first turn. -/
def start (domain : Text) : Walk :=
  ⟨[], domain⟩

/-- One turn of a walk: a name with a point is noted, and what follows its first point comes next. -/
def turn? (walk : Walk) : Option Walk :=
  if '.' ∈ walk.name then
    some ⟨walk.noted ++ [walk.name], walk.name.drop (walk.name.idxOf '.' + 1)⟩
  else
    none

/-- The names of a walk up to where it is. -/
def names (walk : Walk) : List Text :=
  walk.noted ++ [walk.name]

/-- A walk has come from one place to another by a number of turns. -/
inductive Turns : Nat → Walk → Walk → Prop where
  | none
      {walk : Walk} :
      Turns 0 walk walk
  | more
      {turns : Nat}
      {walk next last : Walk}
      (turned : walk.turn? = some next)
      (goesOn : Turns turns next last) :
      Turns (turns + 1) walk last

/-- A walk goes on for a number of turns, and there is no turn after them. -/
structure EndsAfter
    (turns : Nat)
    (walk last : Walk) : Prop where
  arrives : Turns turns walk last
  stops : last.turn? = none

/-- The walk up a domain ends, and a name is one of its names. -/
def Visits (domain name : Text) : Prop :=
  ∃ turns last, EndsAfter turns (start domain) last ∧ name ∈ last.names

/-! ## One turn -/

theorem turn?_eq_none_iff :
    walk.turn? = none ↔ '.' ∉ walk.name := by
  simp [turn?]

/-- A turn goes from a name with a first label to what follows the label and its point. -/
theorem turn?_eq_some_iff :
    walk.turn? = some next ↔
      ∃ label rest,
        '.' ∉ label ∧ walk.name = label ++ '.' :: rest ∧
          next = ⟨walk.noted ++ [walk.name], rest⟩ := by
  have afterLabel
      {label rest : Text}
      (noPoint : '.' ∉ label) :
      (label ++ '.' :: rest).drop ((label ++ '.' :: rest).idxOf '.' + 1) =
        rest := by
    rw [List.idxOf_append_of_notMem noPoint, List.idxOf_cons_self,
      ← List.drop_drop]
    simp
  constructor
  · intro turned
    rw [turn?, Option.ite_none_right_eq_some] at turned
    obtain ⟨hasPoint, shape⟩ := turned
    obtain ⟨label, rest, written, noPoint⟩ :=
      List.eq_append_cons_of_mem hasPoint
    refine ⟨label, rest, noPoint, written, ?_⟩
    rw [← Option.some.inj shape, written, afterLabel noPoint]
  · rintro ⟨label, rest, noPoint, written, rfl⟩
    rw [turn?, written, if_pos (by simp), afterLabel noPoint]

/-- A turn takes one point away. -/
theorem count_of_turn?
    (turned : walk.turn? = some next) :
    walk.name.count '.' = next.name.count '.' + 1 := by
  obtain ⟨label, rest, noPoint, written, rfl⟩ :=
    turn?_eq_some_iff.mp turned
  rw [written, List.count_append, List.count_cons_self,
    List.count_eq_zero_of_not_mem noPoint, Nat.zero_add]

/-- The names of a walk up to its end: the ones it has noted, the one it has come to, and what follows the points there. -/
def namesToEnd (walk : Walk) : List Text :=
  walk.noted ++ walk.name :: Text.tailsAfter '.' walk.name

/-- A turn neither leaves out a name nor adds one. -/
theorem namesToEnd_of_turn?
    (turned : walk.turn? = some next) :
    next.namesToEnd = walk.namesToEnd := by
  obtain ⟨label, rest, noPoint, written, rfl⟩ :=
    turn?_eq_some_iff.mp turned
  have tails :
      Text.tailsAfter '.' walk.name = rest :: Text.tailsAfter '.' rest := by
    rw [written, Text.tailsAfter_append_cons_of_not_mem noPoint]
  rw [namesToEnd, namesToEnd, tails, List.append_assoc, List.singleton_append]

theorem names_eq_namesToEnd
    (stops : walk.turn? = none) :
    walk.names = walk.namesToEnd := by
  rw [names, namesToEnd,
    Text.tailsAfter_eq_nil_of_not_mem (turn?_eq_none_iff.mp stops)]

/-! ## The whole walk -/

/-- Turns taken and points left add up to the points that there were. -/
theorem Turns.count_eq
    (arrives : Turns turns walk last) :
    walk.name.count '.' = last.name.count '.' + turns := by
  induction arrives with
  | none =>
      rfl
  | more turned _ inductionHypothesis =>
      rw [count_of_turn? turned, inductionHypothesis, Nat.add_assoc]

theorem Turns.namesToEnd_eq
    (arrives : Turns turns walk last) :
    last.namesToEnd = walk.namesToEnd := by
  induction arrives with
  | none =>
      rfl
  | more turned _ inductionHypothesis =>
      rw [inductionHypothesis, namesToEnd_of_turn? turned]

/-- Every walk ends, wherever it is. -/
theorem exists_endsAfter
    (walk : Walk) :
    ∃ turns last, EndsAfter turns walk last := by
  -- By the number of points that are left.
  induction points : walk.name.count '.' generalizing walk with
  | zero =>
      have stops : walk.turn? = none :=
        turn?_eq_none_iff.mpr (List.count_eq_zero.mp points)
      exact ⟨0, walk, .none, stops⟩
  | succ points inductionHypothesis =>
      cases turned : walk.turn? with
      | none =>
          exact ⟨0, walk, .none, turned⟩
      | some next =>
          have fewer := count_of_turn? turned
          obtain ⟨turns, last, ends⟩ :=
            inductionHypothesis next (by omega)
          exact ⟨turns + 1, last, .more turned ends.arrives, ends.stops⟩

/-- A walk takes as many turns as there are points in the name that it has come to. -/
theorem EndsAfter.turns_eq
    (ends : EndsAfter turns walk last) :
    turns = walk.name.count '.' := by
  have noPoint := turn?_eq_none_iff.mp ends.stops
  rw [ends.arrives.count_eq, List.count_eq_zero_of_not_mem noPoint,
    Nat.zero_add]

theorem EndsAfter.names_eq
    (ends : EndsAfter turns walk last) :
    last.names = walk.namesToEnd := by
  rw [names_eq_namesToEnd ends.stops, ends.arrives.namesToEnd_eq]

/-- The walk up a domain comes to the names that cover the domain, and to no other ones. -/
theorem visits_iff_covers :
    Visits domain name ↔ Covers name domain := by
  have isName
      {turns : Nat}
      {last : Walk}
      (ends : EndsAfter turns (start domain) last) :
      name ∈ last.names ↔ Covers name domain := by
    rw [ends.names_eq, namesToEnd, start, List.nil_append, List.mem_cons,
      Text.mem_tailsAfter_iff, Covers, eq_comm]
  constructor
  · rintro ⟨turns, last, ends, member⟩
    exact (isName ends).mp member
  · intro covers
    obtain ⟨turns, last, ends⟩ := exists_endsAfter (start domain)
    exact ⟨turns, last, ends, (isName ends).mpr covers⟩

/-- The walk up the lower-case form of a domain ends with the names that the domain is looked up under. -/
theorem exists_endsAfter_suffixes
    (domain : Text) :
    ∃ last,
      EndsAfter ((Text.lower domain).count '.') (start (Text.lower domain))
          last ∧
        last.names = suffixes domain := by
  obtain ⟨turns, last, ends⟩ :=
    exists_endsAfter (start (Text.lower domain))
  have asManyTurns : turns = (Text.lower domain).count '.' :=
    ends.turns_eq
  rw [← asManyTurns]
  exact ⟨last, ends, ends.names_eq⟩

end Walk

variable {name domain : Text}

/-- A name covers a domain if it is the domain or the domain is one of its subdomains. -/
theorem covers_iff_isSubdomain :
    Covers name domain ↔
      domain = name ∨ Url.isSubdomain domain name = true := by
  rw [Covers, Url.isSubdomain_iff]

/--
The walk up a domain ends after as many turns as the lower-case domain has points, and has then listed one name more than
that, each longer than the ones after it: the lower-case domain and what it ends with after a point.

So the decision about a domain, for which the walk is taken, is that of the longest name that equals the domain or has it
for a subdomain; and the parties of a request, for which domains are compared as subdomains, are those of the walks up the
domain of the page and up the host.
-/
theorem walk_ends_with_suffixes
    (domain : Text) :
    (∃ last,
        Walk.EndsAfter ((Text.lower domain).count '.')
            (Walk.start (Text.lower domain)) last ∧
          last.names = suffixes domain) ∧
      (suffixes domain).length = (Text.lower domain).count '.' + 1 ∧
      ((suffixes domain).Pairwise
        fun longer shorter => shorter.length < longer.length) ∧
      (∀ name,
        name ∈ suffixes domain ↔
          name = Text.lower domain ∨ ('.' :: name) <:+ Text.lower domain) ∧
      (∀ (domains : DomainMap) (included : Bool),
        domains.decision? domain = some included ↔
          ∃ name,
            (Text.lower domain = name ∨
                Url.isSubdomain (Text.lower domain) name = true) ∧
              domains.get? name = some included ∧
              ∀ longer,
                Text.lower domain = longer ∨
                    Url.isSubdomain (Text.lower domain) longer = true →
                  name.length < longer.length →
                  domains.get? longer = none) ∧
      (∀ url,
        Url.isThirdParty url domain = false ↔
          Url.host url ≠ [] ∧
            (Url.host url ∈ suffixes domain ∨
              Walk.Visits (Url.host url) (Text.lower domain))) := by
  refine
    ⟨Walk.exists_endsAfter_suffixes domain, length_suffixes domain,
      pairwise_suffixes domain, ?_, ?_, ?_⟩
  · intro name
    rw [mem_suffixes_iff, Covers, eq_comm]
  · intro domains included
    simp only [← covers_iff_isSubdomain]
    exact DomainMap.decision?_eq_some_iff
  · intro url
    rw [Url.isThirdParty_eq_false_iff_inLine, InLine, mem_suffixes_iff,
      Walk.visits_iff_covers]

/-- Points at the start, at the end and in a row each have a name of the walk after them. -/
example :
    suffixes ".A..b.".toList =
      [".a..b.".toList, "a..b.".toList, ".b.".toList, "b.".toList, []] := by
  decide +kernel

end Domain

end AdFilter
