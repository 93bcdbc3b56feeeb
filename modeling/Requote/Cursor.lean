import Requote.Target

/-!
# Strings under a cursor

A cursor is a byte offset. It finds the innermost body that it touches: the code of interpolations
is looked at before the bodies around it. The body is found with its place among its neighbours,
which gives the whole literal that it belongs to.
-/

namespace Requote

/-- A body with the targets on both sides of it in its list. -/
structure Place where
  before : List Target
  body   : Body
  after  : List Target

namespace Place

/-- The same place with one more target at the start of the list. -/
def push (t : Target) (p : Place) : Place :=
  { p with before := t :: p.before }

/-- The list of targets that the place is in. -/
def targets (p : Place) : List Target :=
  p.before ++ .body p.body :: p.after

/-! ### Finding the body -/

/-- The first body of a list that the cursor touches, groups left out. -/
def bodyAt? (offset : Nat) : List Target → Option Place
  | []                  => none
  | .body b :: ts       =>
    if b.span.touches offset then some ⟨[], b, ts⟩ else (bodyAt? offset ts).map (push (.body b))
  | .group g inside :: ts => (bodyAt? offset ts).map (push (.group g inside))

mutual

/-- The body under the cursor inside a group that the cursor touches. -/
def insideGroup? (offset : Nat) : Target → Option Place
  | .body _         => none
  | .group g inside =>
    if g.span.touches offset then (insideGroups? offset inside).or (bodyAt? offset inside) else none

/-- The body under the cursor inside the first group of a list that has one. -/
def insideGroups? (offset : Nat) : List Target → Option Place
  | []      => none
  | t :: ts => (insideGroup? offset t).or (insideGroups? offset ts)

end

/-- The innermost body under the cursor. -/
def find? (offset : Nat) (targets : List Target) : Option Place :=
  (insideGroups? offset targets).or (bodyAt? offset targets)

/-! ### The literal around the body -/

/-- The start of a list up to and with the first element that has a property. -/
def takeThrough {α : Type} (p : α → Bool) : List α → List α
  | []     => []
  | a :: l => if p a then [a] else a :: takeThrough p l

/-- Whether the target is a body that opens its literal. -/
def isFirst (t : Target) : Bool :=
  t.body?.any Body.isFirst

/-- Whether the target is a body that ends its literal or is cut off. -/
def isLast (t : Target) : Bool :=
  t.body?.any Body.isLast

/-- The bodies and groups of the literal that the body belongs to. -/
def literal (p : Place) : List Target :=
  (if p.body.isFirst then [] else (takeThrough isFirst p.before.reverse).reverse)
    ++ .body p.body :: (if p.body.isLast then [] else takeThrough isLast p.after)

end Place

end Requote
