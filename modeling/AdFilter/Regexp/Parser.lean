import AdFilter.Regexp.Token

namespace AdFilter

/-!
# Reading expressions

The parts of a source are read from left to right.  Groups that have been opened and not yet closed are kept
innermost first.  A mark of repetition needs something before it that is neither an anchor nor repeated already.
After a repetition a question mark asks for few of them first, and a plus sign for no fewer than there are.
-/

namespace Regexp

/-- Which marks of repetition may follow an expression, and what it repeats if it has one. -/
inductive Repeatability where
  | repeatable
  | anchor
  | repeated (body : Regexp) (least : Nat) (most : Option Nat)
  | settled
  deriving Repr, DecidableEq

/-- An expression in a sequence, with whether it may be repeated. -/
structure Item where
  expression : Regexp
  repeatability : Repeatability
  deriving Repr, DecidableEq

/-- A group that has been opened: its finished alternatives and the items of the last one, latest first. -/
structure OpenGroup where
  alternatives : List Regexp
  items : List Item
  deriving Repr, DecidableEq

namespace OpenGroup

/-- A group of which nothing has been read. -/
def start : OpenGroup :=
  ⟨[], []⟩

/-- The expression of the alternative that is being read. -/
def current (group : OpenGroup) : Regexp :=
  sequence (group.items.reverse.map Item.expression)

/-- The expression of the group. -/
def expression (group : OpenGroup) : Regexp :=
  choice (group.current :: group.alternatives).reverse

/-- The group with one item more. -/
def add (group : OpenGroup) (expression : Regexp) (repeatability : Repeatability) : OpenGroup :=
  ⟨group.alternatives, ⟨expression, repeatability⟩ :: group.items⟩

/-- The group with its last item repeated. -/
def repeatLast? (group : OpenGroup) (least : Nat) (most : Option Nat) : Option OpenGroup :=
  match group.items with
  | ⟨body, .repeatable⟩ :: items =>
      some ⟨group.alternatives, ⟨body.repeated least most, .repeated body least most⟩ :: items⟩
  | _ => none

/-- The group after a question mark: its last item is optional, or a repetition that prefers to be short. -/
def optionalLast? (group : OpenGroup) : Option OpenGroup :=
  match group.items with
  | ⟨expression, .repeated _ _ _⟩ :: items => some ⟨group.alternatives, ⟨expression, .settled⟩ :: items⟩
  | _ => group.repeatLast? 0 (some 1)

/--
The group after a plus sign: its last item is repeated, or a repetition of a character set that is as long as it can
be.  For repetitions of other expressions there is no such form.
-/
def plusLast? (group : OpenGroup) : Option OpenGroup :=
  match group.items with
  | ⟨_, .repeated (.one set) least most⟩ :: items =>
      some ⟨group.alternatives, ⟨wholeRun set least most, .settled⟩ :: items⟩
  | _ => group.repeatLast? 1 none

end OpenGroup

/-- The group that is being read, and the groups around it. -/
structure Progress where
  group : OpenGroup
  around : List OpenGroup
  deriving Repr, DecidableEq

namespace Progress

/-- Read one part. -/
def step (progress : Progress) : RegexpToken → Option Progress
  | .one set => some ⟨progress.group.add (.one set) .repeatable, progress.around⟩
  | .anchor expression => some ⟨progress.group.add expression .anchor, progress.around⟩
  | .openGroup => some ⟨.start, progress.group :: progress.around⟩
  | .closeGroup =>
      match progress.around with
      | [] => none
      | outer :: around => some ⟨outer.add progress.group.expression .repeatable, around⟩
  | .bar => some ⟨⟨progress.group.current :: progress.group.alternatives, []⟩, progress.around⟩
  | .star => (progress.group.repeatLast? 0 none).map fun group => ⟨group, progress.around⟩
  | .plus => progress.group.plusLast?.map fun group => ⟨group, progress.around⟩
  | .optional => progress.group.optionalLast?.map fun group => ⟨group, progress.around⟩
  | .counted least most =>
      (progress.group.repeatLast? least most).map fun group => ⟨group, progress.around⟩

/-- Read several parts. -/
def steps (progress : Progress) (tokens : List RegexpToken) : Option Progress :=
  tokens.foldlM step progress

/-- The expression that has been read, if no group is open. -/
def finish? (progress : Progress) : Option Regexp :=
  match progress.around with
  | [] => some progress.group.expression
  | _ :: _ => none

end Progress

/-- The expression of a source. -/
def parse? (source : Text) : Option Regexp :=
  match RegexpToken.scan source with
  | none => none
  | some tokens =>
      match Progress.steps ⟨.start, []⟩ tokens with
      | none => none
      | some progress => progress.finish?

end Regexp

end AdFilter
