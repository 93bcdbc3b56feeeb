import Requote.Concatenation
import Requote.Config
import Requote.Cursor
import Requote.Decline
import Requote.Document

/-!
# Commands

A command converts the string under the cursor. It reads the source text, finds the string, and
gives the edits that convert it, or says why it does not apply.
-/

namespace Requote

/-- A conversion of the string under the cursor. -/
inductive Command where
  | toTemplate
  | toNormal
  | toggle
deriving DecidableEq, Repr

/-- Why there is no conversion. -/
inductive Failure where
  | declined (decline : Decline)
  /-- There is no such line or column. -/
  | outside (line column : Nat)
  /-- The cursor is no place of the source text. -/
  | cursor (error : OffsetError)
  /-- An edit has an end that is no place of the source text. -/
  | misplacedEdit
deriving DecidableEq, Repr

/-- The place of a flaw and the line of the source text are left out where the flaw has none. -/
def Flaw.decline (source : Text) : Flaw → Decline
  | malformed                 => { reason := .malformedFragments }
  | emptyInterpolation offset =>
    { reason := .emptyInterpolation, location := some (source.position offset) }

namespace Command

/-- The name of a command. -/
def name : Command → Text
  | toTemplate => "to-template".toList
  | toNormal   => "to-normal".toList
  | toggle     => "toggle".toList

/-- The command with a name. -/
def ofName? (name : Text) : Option Command :=
  [toTemplate, toNormal, toggle].find? fun command => command.name = name

/-! ### The three conversions -/

/-- Declines with a place of the source text. -/
def declineAt {α : Type} (source : Text) (reason : Reason) (offset : Nat) : Except Failure α :=
  .error (.declined (.located source reason (source.position offset)))

/-- The place of the string under the cursor. Past the end the cursor counts as being at the end. -/
def placeAt (source : Text) (document : Document) (offset : Nat) : Except Failure Place :=
  match Place.find? offset document.targets with
  | some place => .ok place
  | none       =>
    match source.position? (min offset source.size) with
    | .ok position => .error (.declined (.located source .noString position))
    | .error e     => .error (.cursor e)

/-- The edit that gives a body another kind, as a whole literal. -/
def replaceBody (b : Body) (kind : Kind) : Edit :=
  ⟨b.span, Escape.convertAndWrap b.kind kind true true b.text⟩

/-- Replaces a quoted literal that is not cut off. -/
def replaceQuoted (source : Text) (b : Body) (kind : Kind) : Except Failure (List Edit) :=
  if b.isTerminated then .ok [replaceBody b kind] else declineAt source .unterminated b.span.start

/-- Turns a quoted literal into a template. -/
def runToTemplate (source : Text) (b : Body) : Except Failure (List Edit) :=
  match b.kind with
  | .template => declineAt source .alreadyTemplate b.span.start
  | .normal _ => replaceQuoted source b .template

/-- Swaps the quotes of a quoted literal. -/
def runToggle (source : Text) (b : Body) : Except Failure (List Edit) :=
  match b.kind with
  | .template => declineAt source .templateString b.span.start
  | .normal q => replaceQuoted source b (.normal q.other)

/-- Whether the last target is a body that a backtick closes. -/
def isClosed (literal : List Target) : Bool :=
  match literal.getLast? with
  | some (.body b) =>
    match b.delimiters with
    | .template _ closing => closing = some .backtick
    | .quoted _ _         => false
  | _ => false

/-- Turns a template into a quoted literal, or into a concatenation if it has interpolations. -/
def runToNormal (source : Text) (place : Place) (kind : Kind) : Except Failure (List Edit) :=
  match place.body.kind with
  | .normal _ => declineAt source .alreadyNormal place.body.span.start
  | .template =>
    let literal := place.literal
    if isClosed literal then
      match literal with
      | [.body b] => .ok [replaceBody b kind]
      | _         =>
        match Concatenation.edits literal kind with
        | .ok edits   => .ok edits
        | .error flaw => .error (.declined (flaw.decline source))
    else
      declineAt source .unterminated
        ((literal.head?.map fun t => t.span.start).getD place.body.span.start)

/-- The edits of a command at a cursor. -/
def run (command : Command) (style : QuoteStyle) (source : Text) (offset : Nat) :
    Except Failure (List Edit) := do
  let document := Document.read source
  let place ← placeAt source document offset
  match command with
  | toTemplate => runToTemplate source place.body
  | toggle     => runToggle source place.body
  | toNormal   => runToNormal source place (style.resolve (.normal document.commonQuote))

/-- The source text after the edits of a command. -/
def convert (command : Command) (style : QuoteStyle) (source : Text) (offset : Nat) :
    Except Failure Text := do
  let edits ← command.run style source offset
  match Edit.applyAll? source edits with
  | some text => .ok text
  | none      => .error .misplacedEdit

/-- The cursor at a line and column. -/
def cursorAt (source : Text) (line column : Nat) : Except Failure Nat :=
  match source.offset? line column with
  | some offset => .ok offset
  | none        => .error (.outside line column)

/-! ### The log -/

/-- The line that a failure writes to the log: a decline does that points at a line of the
source. -/
def failureRecord? : Failure → Option Record
  | .declined ⟨reason, some location, some _⟩ =>
    some ⟨.debug, "declined at ".toList ++ location.display ++ ": ".toList ++ reason.message⟩
  | _ => none

/-- The log of a command with some outcome: the events of reading, then the failure. -/
def records {α : Type} (source : Text) (outcome : Except Failure α) : List Record :=
  let lines := source.lines
  (Document.read source).events.map (Event.record lines)
    ++ match outcome with
      | .ok _          => []
      | .error failure => (failureRecord? failure).toList

end Command

/-- The failure in words. A cursor inside a character, a misplaced edit and a place that cannot be
shown have none. -/
def Failure.message? : Failure → Option Text
  | declined d          => d.message?
  | outside line column =>
    some ("position ".toList ++ Text.ofNat line ++ [':'] ++ Text.ofNat column
      ++ " is outside the document".toList)
  | cursor e            => e.message
  | misplacedEdit       => none

end Requote
