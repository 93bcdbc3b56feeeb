import Requote.Diff

/-!
# Shortest scripts

A shortest script is found by walking from both ends of the two stretches of lines, one more change
at a time, until the two walks meet. The stretches are cut where they meet, and each half is solved
in the same way.

A walk is known by how far it reaches on each diagonal. On diagonal `k` the walk has taken `k` more
old lines than new ones.
-/

namespace Requote.Diff

/-- How many old lines a walk has taken on each diagonal. Diagonal `k` is at index `k + middle`. -/
structure Walk where
  middle : Nat
  reach  : Array Nat

namespace Walk

/-- A walk that has not started, with room for a number of changes. -/
def start (changes : Nat) : Walk :=
  ⟨changes + 1, Array.replicate (2 * changes + 3) 0⟩

/-- How far the walk reaches on a diagonal. -/
def get (w : Walk) (k : Int) : Nat :=
  w.reach.getD (k + w.middle).toNat 0

/-- Notes how far the walk reaches on a diagonal. -/
def set (w : Walk) (k : Int) (x : Nat) : Walk :=
  { w with reach := w.reach.setIfInBounds (k + w.middle).toNat x }

/-- Where a walk with `d` changes enters a diagonal: from the one beside it that reaches further. -/
def enter (w : Walk) (d k : Int) : Nat :=
  if k = -d ∨ (k ≠ d ∧ w.get (k - 1) < w.get (k + 1)) then w.get (k + 1) else w.get (k - 1) + 1

end Walk

/-- Two stretches of lines, by their ends. -/
structure Box where
  oldStart : Nat
  oldStop  : Nat
  newStart : Nat
  newStop  : Nat

namespace Box

/-- The number of old lines. -/
def height (b : Box) : Nat := b.oldStop - b.oldStart

/-- The number of new lines. -/
def width (b : Box) : Nat := b.newStop - b.newStart

/-- How many lines match from a place in the box on. -/
def slideForward (b : Box) (old new : Array Text) (x : Nat) (y : Int) : Nat :=
  if x < b.height ∧ 0 ≤ y ∧ y < b.width then
    commonStart old new (b.oldStart + x) (b.newStart + y.toNat)
      (min (b.height - x) (b.width - y.toNat))
  else
    0

/-- How many lines match in front of a place in the box, counted from its far corner. -/
def slideBackward (b : Box) (old new : Array Text) (x : Nat) (y : Int) : Nat :=
  if x < b.height ∧ 0 ≤ y ∧ y < b.width then
    commonStop old new (b.oldStop - x) (b.newStop - y.toNat)
      (min (b.height - x) (b.width - y.toNat))
  else
    0

/-- How many more old lines than new ones there are. -/
def excess (b : Box) : Int := (b.height : Int) - b.width

/-- Both walks, and the place where they met. -/
structure Search where
  forward  : Walk
  backward : Walk
  meeting  : Option (Nat × Nat) := none

/-- One more change of the forward walk, on one diagonal. -/
def stepForward (b : Box) (old new : Array Text) (d : Nat) (s : Search) (k : Int) : Search :=
  if s.meeting.isSome then s else
    let x := s.forward.enter d k
    let y : Int := x - k
    let reached := x + b.slideForward old new x y
    let forward := s.forward.set k reached
    let met := b.excess % 2 = 1 ∧ (k - b.excess).natAbs + 1 ≤ d
      ∧ b.height ≤ reached + s.backward.get (b.excess - k)
    { s with
      forward
      meeting := if met then some (b.oldStart + x, b.newStart + y.toNat) else none }

/-- One more change of the backward walk, on one diagonal. -/
def stepBackward (b : Box) (old new : Array Text) (d : Nat) (s : Search) (k : Int) : Search :=
  if s.meeting.isSome then s else
    let x := s.backward.enter d k
    let y : Int := x - k
    let slide := b.slideBackward old new x y
    let backward := s.backward.set k (x + slide)
    let met := b.excess % 2 = 0 ∧ (k - b.excess).natAbs ≤ d
      ∧ b.height ≤ x + slide + s.forward.get (b.excess - k)
    { s with
      backward
      meeting :=
        if met then some (b.oldStop - (x + slide), b.newStop - (y.toNat + slide)) else none }

/-- The diagonals that `d` changes can lead to, from the highest to the lowest. -/
def diagonals (d : Nat) : List Int :=
  (List.range (d + 1)).map fun (i : Nat) => (d : Int) - 2 * (i : Int)

/-- Lets both walks make one more change. -/
def extend (b : Box) (old new : Array Text) (s : Search) (d : Nat) : Search :=
  (diagonals d).foldl (b.stepBackward old new d) ((diagonals d).foldl (b.stepForward old new d) s)

/-- The place where the two walks meet. -/
def meeting? (b : Box) (old new : Array Text) : Option (Nat × Nat) :=
  let changes := (b.height + b.width + 1) / 2 + 1
  ((List.range changes).foldl (b.extend old new)
    ⟨Walk.start changes, Walk.start changes, none⟩).meeting

end Box

/-- The step with some lines, none if there are no lines. -/
def stepOf (tag : Tag) (old new length : Nat) : List Step :=
  if length = 0 then [] else [⟨tag, old, new, length⟩]

/-- The steps that turn one stretch of lines into another. Each cut makes the stretches shorter, so
`fuel` can be their length. -/
def solve (old new : Array Text) : Nat → Box → List Step
  | 0,        b => stepOf .delete b.oldStart b.newStart b.height
                    ++ stepOf .insert b.oldStart b.newStart b.width
  | fuel + 1, b =>
    let first := commonStart old new b.oldStart b.newStart (min b.height b.width)
    let rest : Box := { b with oldStart := b.oldStart + first, newStart := b.newStart + first }
    let last := commonStop old new rest.oldStop rest.newStop (min rest.height rest.width)
    let inner : Box := { rest with oldStop := rest.oldStop - last, newStop := rest.newStop - last }
    let middle :=
      if inner.height = 0 ∨ inner.width = 0 then
        stepOf .delete inner.oldStart inner.newStart inner.height
          ++ stepOf .insert inner.oldStart inner.newStart inner.width
      else
        match inner.meeting? old new with
        | some (x, y) =>
          solve old new fuel { inner with oldStop := x, newStop := y }
            ++ solve old new fuel { inner with oldStart := x, newStart := y }
        | none =>
          stepOf .delete inner.oldStart inner.newStart inner.height
            ++ stepOf .insert inner.oldStart inner.newStart inner.width
    stepOf .keep b.oldStart b.newStart first ++ middle
      ++ stepOf .keep inner.oldStop inner.newStop last

/-- A shortest script between two lists of lines. -/
def script (old new : Array Text) : List Step :=
  solve old new (old.size + new.size + 1) ⟨0, old.size, 0, new.size⟩

end Requote.Diff
