import Requote.Text
import Requote.Span

/-!
# Lines and positions

A position names a place by its byte offset and by line and column, both counted from one. Lines end
at a line feed, and a carriage return right before it belongs to the terminator. Columns count
characters. A place inside a terminator has the column of the end of its line.
-/

namespace Requote

/-- A place in a text: byte offset, line and column. -/
structure Position where
  offset : Nat
  line   : Nat
  column : Nat
deriving DecidableEq, Repr

/-- Why a byte offset names no place of a text. -/
inductive OffsetError where
  | pastEnd (offset size : Nat)
  | insideCharacter (offset : Nat)
deriving DecidableEq, Repr

/-- A line: the byte offset where it starts and its characters, without the terminator. -/
structure Line where
  start : Nat
  text  : Text
deriving DecidableEq, Repr

/-! ### Splitting a text into lines -/

namespace Text

/-- The pieces of a text between its line feeds. -/
def splitLines : Text → List Text
  | []     => [[]]
  | c :: t =>
    if c = '\n' then
      [] :: splitLines t
    else
      match splitLines t with
      | []         => [[c]]
      | l :: lines => (c :: l) :: lines

/-- A piece that ended at a line feed, without a carriage return at its end. -/
def dropReturn (t : Text) : Text :=
  if t.getLast? = some '\r' then t.dropLast else t

/-- The lines made of pieces that start at a byte offset. Only the last keeps a carriage return. -/
def linesFrom (start : Nat) : List Text → List Line
  | []          => []
  | [l]         => [⟨start, l⟩]
  | l :: rest   => ⟨start, dropReturn l⟩ :: linesFrom (start + size l + 1) rest

/-- The lines of a text, at least one. -/
def lines (t : Text) : List Line :=
  linesFrom 0 (splitLines t)

end Text

/-! ### From offsets to positions and back -/

namespace Position

/-- The position of a byte offset among lines. -/
def ofLines (lines : List Line) (offset : Nat) : Position :=
  let before := lines.takeWhile fun line => line.start ≤ offset
  match before.getLast? with
  | some line => ⟨offset, before.length, Text.charsWithin line.text (offset - line.start) + 1⟩
  | none      => ⟨offset, 1, 1⟩

/-- Line and column, as `2:7`. -/
def display (p : Position) : Text :=
  Text.ofNat p.line ++ [':'] ++ Text.ofNat p.column

end Position

/-- Two positions, as `1:3-2:7`. -/
def Position.displayRange (start stop : Position) : Text :=
  start.display ++ ['-'] ++ stop.display

/-- What is wrong with the offset. An offset inside a character has no text of its own. -/
def OffsetError.message : OffsetError → Option Text
  | .pastEnd offset size =>
    some ("offset ".toList ++ Text.ofNat offset ++ " is out of bounds for source of length ".toList
      ++ Text.ofNat size)
  | .insideCharacter _ => none

namespace Text

/-- The position of a byte offset. -/
def position (t : Text) (offset : Nat) : Position :=
  Position.ofLines t.lines offset

/-- The position of a byte offset that may lie past the end or inside a character. -/
def position? (t : Text) (offset : Nat) : Except OffsetError Position :=
  if t.size < offset then
    .error (.pastEnd offset t.size)
  else if t.isBoundary offset then
    .ok (t.position offset)
  else
    .error (.insideCharacter offset)

/-- The positions of two byte offsets. The first one is looked at first. -/
def positions? (t : Text) (start stop : Nat) : Except OffsetError (Position × Position) := do
  let first ← t.position? start
  let last ← t.position? stop
  return (first, last)

/-- The line with a number, counted from one. -/
def line? (t : Text) (number : Nat) : Option Line :=
  if number = 0 then none else t.lines[number - 1]?

/-- The byte offset of a line and column. A column past the end of the line names its end. -/
def offset? (t : Text) (line column : Nat) : Option Nat :=
  if column = 0 then
    none
  else
    (t.line? line).map fun l => l.start + size (l.text.take (column - 1))

end Text

end Requote
