/-!
# Ranges of characters

A character property is given by the ascending list of its ranges of code points, both ends
included.
-/

namespace Requote.Text

/-- Whether a code point lies in one of the ranges of an ascending list. -/
def inRanges : List (Nat × Nat) → Nat → Bool
  | [],                   _ => false
  | (first, last) :: more, n => if n < first then false else n ≤ last || inRanges more n

@[simp]
theorem inRanges_nil (n : Nat) : inRanges [] n = false := rfl

end Requote.Text
