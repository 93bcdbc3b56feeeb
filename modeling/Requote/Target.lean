import Requote.Literal
import Requote.Span

/-!
# Targets

The strings of a source text form a tree. A body is one piece of a literal. Between two bodies of a
template stands a group: the code of one interpolation, with the targets found in it.
-/

namespace Requote

/-- One piece of a literal: a whole quoted literal, or what stands between two interpolations. -/
structure Body where
  delimiters : Delimiters
  /-- The characters between the delimiters, as written. -/
  text       : Text
  /-- Where the piece stands, delimiters included. -/
  span       : Span
deriving DecidableEq, Repr

/-- What is known of the code of an interpolation, apart from the targets in it. -/
structure Group where
  /-- Whether an operator outside all brackets binds no tighter than `+`. -/
  lowPriority : Bool
  /-- The blanks right after the start of the interpolation, possibly none. -/
  leading     : Span
  /-- The blanks right before the end of the interpolation, possibly none. -/
  trailing    : Span
  /-- The code between the two ends of the interpolation. -/
  span        : Span
deriving DecidableEq, Repr

/-- A body, or a group with the targets inside it. -/
inductive Target where
  | body (body : Body)
  | group (group : Group) (inside : List Target)
deriving Repr

namespace Body

/-- The kind of literal that the body belongs to. -/
def kind (b : Body) : Kind :=
  b.delimiters.kind

/-- Whether the body opens its literal. -/
def isFirst (b : Body) : Bool :=
  b.delimiters.isFirst

/-- Whether the body ends its literal or is cut off. -/
def isLast (b : Body) : Bool :=
  b.delimiters.isLast

/-- Whether the body has a closing delimiter. -/
def isTerminated (b : Body) : Bool :=
  b.delimiters.isTerminated

end Body

namespace Target

/-- Where the target stands. -/
def span : Target → Span
  | body b    => b.span
  | group g _ => g.span

/-- The body that a target is. -/
def body? : Target → Option Body
  | body b    => some b
  | group _ _ => none

/-- Whether an interpolation has no code: nothing but the blanks at its start. -/
def isBlankGroup (g : Group) (inside : List Target) : Bool :=
  inside.isEmpty && g.span.stop ≤ g.leading.stop

/-! ### Walking the tree -/

mutual

/-- The bodies of a target, each group giving those inside it. -/
def bodies : Target → List Body
  | body b         => [b]
  | group _ inside => bodiesOf inside

/-- The bodies of a list of targets, from left to right. -/
def bodiesOf : List Target → List Body
  | []      => []
  | t :: ts => bodies t ++ bodiesOf ts

end

mutual

/-- A target and all targets below it with their depths, parents first. -/
def withDepth (depth : Nat) : Target → List (Nat × Target)
  | body b         => [(depth, body b)]
  | group g inside => (depth, group g inside) :: withDepths (depth + 1) inside

/-- The targets of a list and all below them with their depths, in source order. -/
def withDepths (depth : Nat) : List Target → List (Nat × Target)
  | []      => []
  | t :: ts => withDepth depth t ++ withDepths depth ts

end

/-- The targets at the end of a path: each step goes into the group with that index. -/
def inside? (targets : List Target) : List Nat → Option (List Target)
  | []          => some targets
  | i :: steps  =>
    match targets[i]? with
    | some (group _ inside) => inside? inside steps
    | _                     => none

/-! ### The common quote -/

/-- The number of bodies between a quote. -/
def countQuote (q : Quote) (targets : List Target) : Nat :=
  (bodiesOf targets).countP fun b => b.kind = .normal q

/-- The quote that most bodies have, the single one if both are as common. -/
def commonQuote (targets : List Target) : Quote :=
  if countQuote .single targets < countQuote .double targets then .double else .single

end Target

end Requote
