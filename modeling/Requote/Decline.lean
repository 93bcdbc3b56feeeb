import Requote.Position
import Requote.Text.Blank

/-!
# Declined conversions

A conversion that does not apply is declined, for a reason, mostly with the place and the line it is
about. The message shows the line with a caret under the place.
-/

namespace Requote

/-- Why a conversion does not apply. -/
inductive Reason where
  | noString
  | alreadyTemplate
  | alreadyNormal
  | templateString
  | unterminated
  | emptyInterpolation
  | malformedFragments
deriving DecidableEq, Repr

namespace Reason

/-- The reason in words. -/
def message : Reason → Text
  | noString           => "no string found at the selected position".toList
  | alreadyTemplate    =>
    "the string at the selected position is already a template string".toList
  | alreadyNormal      => "the string at the selected position is already a normal string".toList
  | templateString     => "the string at the selected position is a template string".toList
  | unterminated       => "the string at the selected position is unterminated".toList
  | emptyInterpolation => "the template string has an empty interpolation".toList
  | malformedFragments =>
    "the selected targets do not form a complete template string".toList

/-- What to do about it. -/
def help? : Reason → Option Text
  | noString           => some "place the cursor inside a quoted or template string".toList
  | templateString     => some "use `to-normal` to convert a template string".toList
  | unterminated       => some "add the missing closing quote first".toList
  | emptyInterpolation => some "fill in or remove the empty `$\x7b\x7d` first".toList
  | alreadyTemplate    => none
  | alreadyNormal      => none
  | malformedFragments => none

end Reason

/-- A conversion that was declined. -/
structure Decline where
  reason     : Reason
  location   : Option Position := none
  /-- The characters of the line with the location. -/
  sourceLine : Option Text := none
deriving DecidableEq, Repr

namespace Decline

/-- A decline that points at a place of a source text. -/
def located (source : Text) (reason : Reason) (location : Position) : Decline :=
  ⟨reason, some location, (source.line? location.line).map Line.text⟩

/-- The line with the reason. -/
def headLine (d : Decline) : Text :=
  match d.location with
  | some p => p.display ++ ": ".toList ++ d.reason.message
  | none   => d.reason.message

/-- The source line as it is shown, after its number. -/
def shownLine (line : Text) (p : Position) : Text :=
  Text.padLeft 3 (Text.ofNat p.line) ++ " | ".toList ++ line

/-- The line with the caret. -/
def caretLine (p : Position) : Text :=
  "  | ".toList ++ List.replicate (p.column - 1) ' ' ++ ['^']

/-- The lines that show the place. -/
def contextLines (d : Decline) : List Text :=
  match d.location, d.sourceLine with
  | some p, some line => ["  |".toList, shownLine line p, caretLine p]
  | _,      _         => []

/-- The last column under which a caret can be shown. -/
def maxColumn : Nat := 65536

/-- Whether the place can be shown: columns are counted from 1. -/
def isShowable (d : Decline) : Bool :=
  match d.location, d.sourceLine with
  | some p, some _ => 1 ≤ p.column && p.column ≤ maxColumn
  | _,      _      => true

/-- The message: the reason, the place, and what to do about it. -/
def message (d : Decline) : Text :=
  Text.trimEnd <|
    (d.headLine :: d.contextLines).flatMap (· ++ ['\n'])
      ++ (d.reason.help?.map ("  = help: ".toList ++ ·)).getD []

/-- The message, if its place can be shown. -/
def message? (d : Decline) : Option Text :=
  if d.isShowable then some d.message else none

end Decline

end Requote
