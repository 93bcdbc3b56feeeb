import Requote.Diagnostic
import Requote.Target
import Requote.Token.Tiling

/-!
# Documents

A document is what reading a source text gives: its targets, the problems stepped over, and the
events on the way. Reading goes token by token over a stack of open interpolations. It never fails:
a text that is cut off closes all interpolations at its end.
-/

namespace Requote

/-- An interpolation that is open. -/
structure Frame where
  /-- The offset right after the start of the interpolation. -/
  start       : Nat
  inside      : List Target := []
  /-- The open brackets, innermost first. -/
  brackets    : List Bracket := []
  lowPriority : Bool := false
  /-- Whether a token was read. -/
  started     : Bool := false
  /-- The first token, if it is blank and stands outside all brackets. -/
  leading     : Option Span := none
  /-- The last token, if it is blank and stands outside all brackets. -/
  trailing    : Option Span := none

namespace Frame

/-- Whether a closing brace ends the interpolation: no curly bracket is open. -/
def resumes (f : Frame) : Bool :=
  !f.brackets.contains .curly

/-- The group that the interpolation becomes when it ends at an offset. -/
def finish (f : Frame) (stop : Nat) : Target :=
  .group
    { lowPriority := f.lowPriority
      leading     := f.leading.getD ⟨f.start, f.start⟩
      trailing    := f.trailing.getD ⟨stop, stop⟩
      span        := ⟨f.start, stop⟩ }
    f.inside

/-- Notes where the blanks at either end are. -/
def note (f : Frame) (token : Token) (span : Span) : Frame :=
  let blank :=
    match token with
    | .blank _ => if f.brackets.isEmpty then some span else none
    | _        => none
  { f with
    started  := true
    leading  := if f.started then f.leading else blank
    trailing := blank }

end Frame

/-- The state of reading: the offset reached, the character in front of it, and what was found. -/
structure Reader where
  offset      : Nat := 0
  previous    : Option Char := none
  /-- The finished targets outside all interpolations. -/
  targets     : List Target := []
  /-- The open interpolations, innermost first. -/
  frames      : List Frame := []
  diagnostics : List Diagnostic := []
  events      : List Event := []

namespace Reader

/-! ### What a token does -/

/-- Whether a closing brace here ends an interpolation. -/
def resumes (r : Reader) : Bool :=
  r.frames.head?.any Frame.resumes

/-- Changes the innermost open interpolation. -/
def modifyFrame (r : Reader) (f : Frame → Frame) : Reader :=
  { r with frames := r.frames.modifyHead f }

/-- Adds a target to the innermost open interpolation, or to the document. -/
def addTarget (r : Reader) (t : Target) : Reader :=
  match r.frames with
  | []          => { r with targets := r.targets ++ [t] }
  | f :: frames => { r with frames := { f with inside := f.inside ++ [t] } :: frames }

/-- Adds an event. -/
def addEvent (r : Reader) (e : Event) : Reader :=
  { r with events := r.events ++ [e] }

/-- Adds a diagnostic. -/
def addDiagnostic (r : Reader) (d : Diagnostic) : Reader :=
  { r with diagnostics := r.diagnostics ++ [d] }

/-- Ends the innermost open interpolation at an offset. -/
def closeFrame (r : Reader) (stop : Nat) : Reader :=
  match r.frames with
  | []          => r
  | f :: frames =>
    (({ r with frames := frames }).addEvent (.closed stop)).addTarget (f.finish stop)

/-- Notes the blanks at either end of the innermost open interpolation. -/
def note (r : Reader) (token : Token) (span : Span) : Reader :=
  r.modifyFrame fun f => f.note token span

/-- Adds a body, and a diagnostic if it is cut off. -/
def addBody (r : Reader) (delimiters : Delimiters) (text : Text) (span : Span) : Reader :=
  let r := if delimiters.isTerminated then r
    else r.addDiagnostic (.unterminated delimiters.kind span.start)
  r.addTarget (.body ⟨delimiters, text, span⟩)

/-- Opens an interpolation at an offset. -/
def openFrame (r : Reader) (start : Nat) : Reader :=
  { r.addEvent (.opened start) with frames := { start } :: r.frames }

/-- Closes a bracket of the innermost open interpolation. Outside of one brackets do not matter. -/
def closeBracket (r : Reader) (b : Bracket) (offset : Nat) : Reader :=
  match r.frames with
  | []          => r
  | f :: frames =>
    if f.brackets.head? = some b then
      { r with frames := { f with brackets := f.brackets.tail } :: frames }
    else
      (r.addEvent (.mismatched b offset)).addDiagnostic (.mismatchedBracket b offset)

/-- What a token does, apart from moving on. -/
def act (r : Reader) (token : Token) (span : Span) : Reader :=
  match token with
  | .body (.template opening closing) text =>
    let r := if opening = .brace then r.closeFrame span.start else r
    let r := (r.note token span).addBody (.template opening closing) text span
    if closing = some .interpolation then r.openFrame span.stop else r
  | .body delimiters text => (r.note token span).addBody delimiters text span
  | .opening b =>
    (r.note token span).modifyFrame fun f => { f with brackets := b :: f.brackets }
  | .closing b => (r.note token span).closeBracket b span.start
  | .operator _ =>
    (r.note token span).modifyFrame fun f =>
      { f with lowPriority := f.lowPriority || f.brackets.isEmpty }
  | .comment _ | .blank _ | .other _ => r.note token span

/-- Reads one token and moves on behind it. -/
def step (r : Reader) (token : Token) : Reader :=
  let stop := r.offset + token.text.size
  { r.act token ⟨r.offset, stop⟩ with
    offset   := stop
    previous := token.text.getLast?.or r.previous }

/-! ### Reading to the end -/

/-- Reads a text to its end. -/
def run (r : Reader) (t : Text) : Reader :=
  match t with
  | []     => r
  | c :: t =>
    (r.step (Token.read r.previous r.resumes c t).1).run (Token.read r.previous r.resumes c t).2
termination_by t.length
decreasing_by exact Token.length_read_lt ..

/-- Ends open interpolations at the end of the text, from the innermost outward. -/
def unwind (r : Reader) : Nat → Reader
  | 0     => r
  | n + 1 => (r.closeFrame r.offset).unwind n

/-- Ends all open interpolations at the end of the text. -/
def finish (r : Reader) : Reader :=
  r.unwind r.frames.length

end Reader

/-- What reading a source text gives. -/
structure Document where
  targets     : List Target
  diagnostics : List Diagnostic
  events      : List Event

namespace Document

/-- Reads a source text. -/
def read (source : Text) : Document :=
  let r := (Reader.run {} source).finish
  ⟨r.targets, r.diagnostics, r.events⟩

/-- The quote that most strings of the document have. -/
def commonQuote (d : Document) : Quote :=
  Target.commonQuote d.targets

end Document

end Requote
