import Requote.Edit
import Requote.Escape
import Requote.Target

/-!
# Concatenations

A template literal with interpolations is flattened into a concatenation with `+`. The bodies become
quoted strings; the code of each interpolation stays where it is and becomes an operand, in
parentheses if an operator in it binds no tighter than `+`. The blanks around the code go away.
-/

namespace Requote

/-- Why targets cannot be flattened. -/
inductive Flaw where
  /-- They are not one complete template literal. -/
  | malformed
  /-- The interpolation that starts at an offset has no code. -/
  | emptyInterpolation (offset : Nat)
deriving DecidableEq, Repr

namespace Concatenation

/-! ### The fragments of a literal -/

/-- A template literal as bodies with groups between them: a body, and each group with the body that
follows it. -/
structure Fragments where
  head : Body
  tail : List (Group × Body)

/-- Whether a body can be the first or the last of a complete template literal, or neither. -/
def isPiece (b : Body) (first last : Bool) : Bool :=
  b.kind.isTemplate && b.isFirst == first && b.isLast == last && b.isTerminated

/-- Groups and bodies in turn, up to the body that ends the literal. -/
def readTail : List Target → Except Flaw (List (Group × Body))
  | [] => return []
  | .group g inside :: .body b :: ts => do
    if Target.isBlankGroup g inside then throw (.emptyInterpolation g.span.start)
    unless isPiece b false ts.isEmpty do throw .malformed
    return (g, b) :: (← readTail ts)
  | .group g inside :: _ =>
    if Target.isBlankGroup g inside then throw (.emptyInterpolation g.span.start)
    else throw .malformed
  | .body _ :: _ => throw .malformed

/-- The fragments that targets form. -/
def readFragments (targets : List Target) : Except Flaw Fragments := do
  if targets.length % 2 = 0 then throw .malformed
  match targets with
  | .body b :: ts =>
    unless isPiece b true ts.isEmpty do throw .malformed
    return ⟨b, ← readTail ts⟩
  | _ => throw .malformed

/-! ### The edits -/

/-- What closes the operand in front of a body. -/
def closeOperand (g : Group) : Text :=
  (if g.lowPriority then [')'] else []) ++ " + ".toList

/-- What opens the operand after a body. -/
def openOperand (g : Group) : Text :=
  " + ".toList ++ (if g.lowPriority then ['('] else [])

/-- The edit of a body between two groups. It takes the blanks next to the body away. -/
def bodyEdit (quote : Quote) (before : Option Group) (b : Body) (after : Option Group) : Edit where
  span :=
    ⟨(before.map (·.trailing.start)).getD b.span.start,
      (after.map (·.leading.stop)).getD b.span.stop⟩
  text :=
    (before.map closeOperand).getD []
      ++ Escape.convertAndWrap .template (.normal quote) true true b.text
      ++ (after.map openOperand).getD []

/-- The edits of a body and of the fragments after it. -/
def editsFrom (quote : Quote) (before : Option Group) (b : Body) :
    List (Group × Body) → List Edit
  | []           => [bodyEdit quote before b none]
  | (g, b') :: t => bodyEdit quote before b (some g) :: editsFrom quote (some g) b' t

/-- The edits that flatten the literal made of targets into quoted strings, one for each body. -/
def edits (targets : List Target) (kind : Kind) : Except Flaw (List Edit) :=
  match kind with
  | .template     => throw .malformed
  | .normal quote => do
    let fragments ← readFragments targets
    return editsFrom quote none fragments.head fragments.tail

end Concatenation

end Requote
