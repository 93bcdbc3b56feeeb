import Requote.Diff.Compaction
import Requote.Diff.Script
import Requote.Text.Colour

/-!
# Hunks

A difference is shown in hunks: the changed lines with three kept lines around them. Changes with no
more than six kept lines between them share a hunk.
-/

namespace Requote.Diff

/-- A stretch of kept lines, or of lines deleted and inserted at the same place. -/
structure Block where
  kept      : Bool
  old       : Nat
  oldLength : Nat
  new       : Nat
  newLength : Nat
deriving DecidableEq, Repr

namespace Block

/-- The block of one step. -/
def ofStep (s : Step) : Block :=
  match s.tag with
  | .keep   => ⟨true, s.old, s.length, s.new, s.length⟩
  | .delete => ⟨false, s.old, s.length, s.new, 0⟩
  | .insert => ⟨false, s.old, 0, s.new, s.length⟩

/-- Two blocks of the same sort as one. Each side starts where its first lines are. -/
def merge (a b : Block) : Block where
  kept      := a.kept
  old       := if a.oldLength = 0 ∧ 0 < b.oldLength then b.old else a.old
  oldLength := a.oldLength + b.oldLength
  new       := if a.newLength = 0 ∧ 0 < b.newLength then b.new else a.new
  newLength := a.newLength + b.newLength

/-- The first lines of a kept block. -/
def takeFirst (n : Nat) (b : Block) : Block :=
  { b with oldLength := min n b.oldLength, newLength := min n b.newLength }

/-- The last lines of a kept block. -/
def takeLast (n : Nat) (b : Block) : Block :=
  { b with
    old       := b.old + (b.oldLength - n)
    new       := b.new + (b.newLength - n)
    oldLength := min n b.oldLength
    newLength := min n b.newLength }

end Block

/-- The blocks of a script, kept and changed in turn. -/
def blocks : List Step → List Block
  | []          => []
  | s :: script =>
    let a := Block.ofStep s
    match blocks script with
    | []      => [a]
    | b :: bs => if a.kept = b.kept then a.merge b :: bs else a :: b :: bs

/-! ### Context -/

/-- The number of kept lines shown on each side of a change. -/
def context : Nat := 3

/-- Cuts the kept lines at both ends of a script down to the context. -/
def trimEnds (bs : List Block) : List Block :=
  let first := bs.modifyHead fun b => if b.kept then b.takeLast context else b
  (first.reverse.modifyHead fun b => if b.kept then b.takeFirst context else b).reverse

/-- The blocks of each hunk. A hunk ends where more lines are kept than both contexts take. -/
def splitHunks (pending : List Block) : List Block → List (List Block)
  | []      => if pending.all Block.kept then [] else [pending]
  | b :: bs =>
    if b.kept && 2 * context < b.oldLength then
      (pending ++ [b.takeFirst context]) :: splitHunks [b.takeLast context] bs
    else
      splitHunks (pending ++ [b]) bs

/-- The hunks between two lists of lines. -/
def hunks (old new : Array Text) : List (List Block) :=
  splitHunks [] (trimEnds (blocks (compact old new (script old new))))

/-! ### Showing a difference -/

/-- The lines from an index up to another, counted from one. An empty stretch is named by the line
in front of it, and the length is left out if it is one. -/
def displayRange (start stop : Nat) : Text :=
  let length := stop - start
  if length = 1 then
    Text.ofNat (start + 1)
  else
    Text.ofNat (if length = 0 then start else start + 1) ++ [','] ++ Text.ofNat length

/-- The line that names the places of a hunk. -/
def header (first last : Block) : Text :=
  "@@ -".toList ++ displayRange first.old (last.old + last.oldLength) ++ " +".toList
    ++ displayRange first.new (last.new + last.newLength) ++ " @@".toList

/-- The lines of a stretch, without terminators. -/
def linesAt (all : Array Text) (start length : Nat) : List Text :=
  ((all.toList.drop start).take length).map trimLine

/-- The shown lines of a block: kept ones, or deleted ones before inserted ones. -/
def Block.display (old new : Array Text) (b : Block) : List Text :=
  if b.kept then
    (linesAt old b.old b.oldLength).map ([' '] ++ ·)
  else
    (linesAt old b.old b.oldLength).map (fun line => Text.coloured .red (['-'] ++ line))
      ++ (linesAt new b.new b.newLength).map (fun line => Text.coloured .green (['+'] ++ line))

/-- The shown lines of a hunk. -/
def displayHunk (old new : Array Text) (hunk : List Block) : List Text :=
  match hunk.head?, hunk.getLast? with
  | some first, some last =>
    Text.coloured .cyan (header first last) :: hunk.flatMap (Block.display old new)
  | _, _ => []

/-- The difference between two texts, under a label. -/
def render (label before after : Text) : Text :=
  let old := (lines before).toArray
  let new := (lines after).toArray
  let head :=
    [Text.coloured .red ("--- ".toList ++ label), Text.coloured .green ("+++ ".toList ++ label)]
  (head ++ (hunks old new).flatMap (displayHunk old new)).flatMap (· ++ ['\n'])

end Requote.Diff
