import Requote.Position
import Requote.Token

/-!
# Diagnostics and events

What is reported about a source text beside its targets: problems that reading it stepped over, and
the events along the way.
-/

namespace Requote

/-- A problem in a source text. -/
inductive Diagnostic where
  /-- A closing bracket, at an offset, that does not match the innermost open one. -/
  | mismatchedBracket (bracket : Bracket) (offset : Nat)
  /-- A literal of some kind with no closing delimiter, by the offset of the body cut off. -/
  | unterminated (kind : Kind) (offset : Nat)
deriving DecidableEq, Repr

namespace Diagnostic

/-- Where the problem is. -/
def offset : Diagnostic → Nat
  | mismatchedBracket _ offset => offset
  | unterminated _ offset      => offset

/-- What the problem is, without its place. -/
def problem : Diagnostic → Text
  | mismatchedBracket b _ => "mismatched closing bracket `".toList ++ [b.closing, '\x60']
  | unterminated k _      => "unterminated ".toList ++ k.name ++ " string".toList

/-- The problem with its line and column. -/
def message (lines : List Line) (d : Diagnostic) : Text :=
  (Position.ofLines lines d.offset).display ++ ": ".toList ++ d.problem

/-- The code that names the kind of problem. -/
def code : Diagnostic → Text
  | mismatchedBracket _ _ => "esquotes::mismatched_bracket".toList
  | unterminated _ _      => "esquotes::unterminated_literal".toList

/-- What the problem means for the rest. -/
def help : Diagnostic → Text
  | mismatchedBracket _ _ =>
    "the bracket was ignored; interpolation boundaries after it may be wrong".toList
  | unterminated _ _ =>
    "the literal is treated as ending here and cannot be converted".toList

end Diagnostic

/-- How much an event matters. -/
inductive Level where
  | warn
  | debug
deriving DecidableEq, Repr

/-- A line of the log. -/
structure Record where
  level   : Level
  message : Text
deriving DecidableEq, Repr

/-- Something that happens while a source text is read. -/
inductive Event where
  | opened (offset : Nat)
  | closed (offset : Nat)
  | mismatched (bracket : Bracket) (offset : Nat)
deriving DecidableEq, Repr

/-- The line that an event writes to the log. -/
def Event.record (lines : List Line) : Event → Record
  | opened offset =>
    ⟨.debug, "interpolation opened at offset ".toList ++ Text.ofNat offset⟩
  | closed offset =>
    ⟨.debug, "interpolation closed at offset ".toList ++ Text.ofNat offset⟩
  | mismatched b offset =>
    ⟨.warn, "mismatched right bracket `".toList ++ [b.closing] ++ "` at ".toList
      ++ (Position.ofLines lines offset).display⟩

end Requote
