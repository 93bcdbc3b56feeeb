import Requote.Text

/-!
# Differences between texts

A script turns the lines of one text into those of another by keeping, deleting and inserting runs
of lines. Lines end at a line feed, a carriage return, or both in that order, and the terminator
belongs to the line.
-/

namespace Requote.Diff

/-- What a step of a script does. -/
inductive Tag where
  | keep
  | delete
  | insert
deriving DecidableEq, Repr

/-- A step of a script: the indices in the old and in the new lines, and how many lines it takes. -/
structure Step where
  tag    : Tag
  old    : Nat
  new    : Nat
  length : Nat
deriving DecidableEq, Repr

namespace Step

/-- The index after the old lines of the step. -/
def oldStop (s : Step) : Nat :=
  if s.tag = .insert then s.old else s.old + s.length

/-- The index after the new lines of the step. -/
def newStop (s : Step) : Nat :=
  if s.tag = .delete then s.new else s.new + s.length

end Step

/-! ### Lines -/

/-- A line with its terminator, and what follows it. -/
def splitLine : Text → Text × Text
  | []                => ([], [])
  | '\n' :: t         => (['\n'], t)
  | '\r' :: '\n' :: t => (['\r', '\n'], t)
  | '\r' :: t         => (['\r'], t)
  | c :: t            => (c :: (splitLine t).1, (splitLine t).2)

theorem splitLine_append (t : Text) : (splitLine t).1 ++ (splitLine t).2 = t := by
  fun_induction splitLine t <;> simp_all

theorem splitLine_ne_nil (c : Char) (t : Text) : (splitLine (c :: t)).1 ≠ [] := by
  unfold splitLine
  split <;> simp_all

/-- The lines of a text with their terminators. -/
def lines (t : Text) : List Text :=
  match t with
  | []     => []
  | c :: t => (splitLine (c :: t)).1 :: lines (splitLine (c :: t)).2
termination_by t.length
decreasing_by
  have happ := congrArg List.length (splitLine_append (c :: t))
  have hpos := List.length_pos_iff.2 (splitLine_ne_nil c t)
  rw [List.length_append] at happ
  omega

/-- The line without the characters of its terminator. -/
def trimLine (line : Text) : Text :=
  (line.reverse.dropWhile fun c => c == '\r' || c == '\n').reverse

/-! ### Common ends -/

/-- The number of lines that two stretches have in common at their starts, at most `count`. -/
def commonStart (a b : Array Text) (i j : Nat) : Nat → Nat
  | 0         => 0
  | count + 1 => if a[i]? = b[j]? then commonStart a b (i + 1) (j + 1) count + 1 else 0

/-- The number of lines that two stretches have in common in front of two indices, at most
`count`. -/
def commonStop (a b : Array Text) (i j : Nat) : Nat → Nat
  | 0         => 0
  | count + 1 =>
    if a[i - 1]? = b[j - 1]? then commonStop a b (i - 1) (j - 1) count + 1 else 0

end Requote.Diff
