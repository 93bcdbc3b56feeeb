import Requote.Text

/-!
# Literals

The kinds of string literal and the delimiters that stand around a body. A quoted literal is one
body between two equal quotes. A template literal is cut by its interpolations into several bodies:
the first opens with a backtick and the others with the closing brace of an interpolation, the last
closes with a backtick and the others with the start of an interpolation.
-/

namespace Requote

/-- A quote of a quoted literal. -/
inductive Quote where
  | single
  | double
deriving DecidableEq, Repr

namespace Quote

/-- The character of a quote. -/
def char : Quote → Char
  | single => '\''
  | double => '"'

/-- The other quote. -/
def other : Quote → Quote
  | single => double
  | double => single

/-- The quote that a character is. -/
def ofChar? : Char → Option Quote
  | '\'' => some single
  | '"'  => some double
  | _    => none

@[simp]
theorem other_other (q : Quote) : q.other.other = q := by
  cases q <;> rfl

@[simp]
theorem ofChar?_char (q : Quote) : ofChar? q.char = some q := by
  cases q <;> rfl

end Quote

/-- The kind of a string literal. -/
inductive Kind where
  | normal (quote : Quote)
  | template
deriving DecidableEq, Repr

namespace Kind

/-- The name of a kind. -/
def name : Kind → Text
  | normal .single => "single".toList
  | normal .double => "double".toList
  | template       => "template".toList

/-- Whether a literal of this kind can hold interpolations. -/
def isTemplate : Kind → Bool
  | normal _ => false
  | template => true

end Kind

/-- What opens a body of a template: a backtick, or the brace that ends an interpolation. -/
inductive Opening where
  | backtick
  | brace
deriving DecidableEq, Repr

/-- What closes a body of a template: a backtick, or the start of an interpolation. -/
inductive Closing where
  | backtick
  | interpolation
deriving DecidableEq, Repr

/-- The delimiters around a body. A body that is cut off has none at its end. -/
inductive Delimiters where
  | quoted (quote : Quote) (closed : Bool)
  | template (opening : Opening) (closing : Option Closing)
deriving DecidableEq, Repr

/-- The text of an opening delimiter of a template body. -/
def Opening.text : Opening → Text
  | backtick => ['\x60']
  | brace    => ['}']

/-- The text of a closing delimiter of a template body. -/
def Closing.text : Closing → Text
  | backtick      => ['\x60']
  | interpolation => ['$', '{']

namespace Delimiters

/-- The kind of literal that has these delimiters. -/
def kind : Delimiters → Kind
  | quoted q _     => .normal q
  | template _ _   => .template

/-- The text in front of the body. -/
def opening : Delimiters → Text
  | quoted q _     => [q.char]
  | template o _   => o.text

/-- The text after the body, if the body is not cut off. -/
def closing? : Delimiters → Option Text
  | quoted q closed => if closed then some [q.char] else none
  | template _ c    => c.map Closing.text

/-- The text after the body, nothing if the body is cut off. -/
def closing (d : Delimiters) : Text :=
  d.closing?.getD []

/-- Whether the body has a closing delimiter. -/
def isTerminated (d : Delimiters) : Bool :=
  d.closing?.isSome

/-- Whether the body opens its literal. -/
def isFirst : Delimiters → Bool
  | quoted _ _   => true
  | template o _ => o = .backtick

/-- Whether no interpolation follows the body. -/
def isLast : Delimiters → Bool
  | quoted _ _   => true
  | template _ c => c ≠ some .interpolation

/-- The closed delimiters of a kind. A template body has a backtick at an end of its literal. -/
def ofKind (kind : Kind) (first last : Bool) : Delimiters :=
  match kind with
  | .normal q => quoted q true
  | .template =>
    template (if first then .backtick else .brace)
      (some (if last then .backtick else .interpolation))

/-- A body with its delimiters around it. -/
def wrap (d : Delimiters) (body : Text) : Text :=
  d.opening ++ body ++ d.closing

end Delimiters

end Requote
