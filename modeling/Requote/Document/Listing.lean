import Requote.Document
import Requote.Text.Quoted

/-!
# Listings

A document as lines of text: its size and common quote, its targets as an indented tree, and its
diagnostics.
-/

namespace Requote

namespace Target

/-- Two spaces for each level. -/
def indent (depth : Nat) : Text :=
  List.replicate (2 * depth) ' '

/-- The lines and columns of a span, in parentheses. -/
def displaySpan (lines : List Line) (span : Span) : Text :=
  ['('] ++ Position.displayRange (Position.ofLines lines span.start)
    (Position.ofLines lines span.stop) ++ [')']

/-- The line that shows a target by itself. -/
def listLine (lines : List Line) (depth : Nat) : Target → Text
  | body b    =>
    indent depth ++ b.kind.name ++ [' '] ++ b.delimiters.opening ++ Text.quoted b.text
      ++ b.delimiters.closing?.getD "<eof>".toList ++ [' '] ++ displaySpan lines b.span ++ ['\n']
  | group g _ =>
    indent depth ++ "group ".toList ++ displaySpan lines g.span
      ++ (if g.lowPriority then " low-priority".toList else []) ++ ['\n']

end Target

/-- The listing of a source text. -/
def Document.listing (source : Text) : Text :=
  let document := Document.read source
  let lines := source.lines
  "Source: ".toList ++ Text.ofNat source.size ++ " bytes, default quote: ".toList
    ++ (Kind.normal document.commonQuote).name ++ "\n\nTargets:\n".toList
    ++ (Target.withDepths 1 document.targets).flatMap (fun (depth, t) => t.listLine lines depth)
    ++ if document.diagnostics.isEmpty then [] else
      "\nDiagnostics:\n".toList
        ++ document.diagnostics.flatMap fun d => "  ".toList ++ d.message lines ++ ['\n']

end Requote
