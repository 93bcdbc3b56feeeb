import Requote.Span
import Requote.Text

/-!
# Edits

An edit replaces a span of a text. A list of edits is applied from left to right; an edit that
starts inside an earlier one is clipped to start where the earlier one ends.
-/

namespace Requote

/-- The replacement of a span. -/
structure Edit where
  span : Span
  text : Text
deriving DecidableEq, Repr

namespace Edit

/-- Whether an edit comes before another, or stands at the same place. -/
def notAfter (a b : Edit) : Bool :=
  a.span.start < b.span.start || (a.span.start == b.span.start && a.span.stop ≤ b.span.stop)

/-- Applies edits in the given order to the part of a text that starts at an offset. -/
def splice? (offset : Nat) (rest : Text) : List Edit → Option Text
  | []      => some rest
  | e :: es => do
    let start := max e.span.start offset
    let stop := max e.span.stop start
    let (kept, after) ← rest.cut? (start - offset)
    let (_, rest) ← after.cut? (stop - start)
    let tail ← splice? stop rest es
    return kept ++ e.text ++ tail

/-- Applies edits to a text. They fail if an end of one is no place of the text. -/
def applyAll? (source : Text) (edits : List Edit) : Option Text :=
  splice? 0 source (edits.mergeSort notAfter)

end Edit

end Requote
