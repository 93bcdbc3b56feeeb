/-!
# Spans

A stretch of a text, by the byte offsets of its two ends.
-/

namespace Requote

/-- A stretch of a text, from `start` up to but without `stop`. -/
structure Span where
  start : Nat
  stop  : Nat
deriving DecidableEq, Repr

namespace Span

/-- Whether a cursor touches the span. A cursor at either end does. -/
def touches (s : Span) (offset : Nat) : Bool :=
  s.start ≤ offset && offset ≤ s.stop

/-- Whether the span covers nothing. -/
def isEmpty (s : Span) : Bool :=
  s.start == s.stop

theorem touches_iff {s : Span} {offset : Nat} :
    s.touches offset = true ↔ s.start ≤ offset ∧ offset ≤ s.stop := by
  simp [touches]

end Span

end Requote
