import Requote.Text

/-!
# TOML scalars

The forms of truth values, integers, floats, dates and times. A scalar is checked as a whole:
nothing may follow it but a blank, a comma, a closing bracket, a comment or the end of the line.
-/

namespace Requote.Toml.Scalar

/-! ### Digits -/

/-- The digits of a number, which may have single underscores between them. -/
def ungroup (isDigit : Char → Bool) : Text → Option Text
  | []             => none
  | [c]            => if isDigit c then some [c] else none
  | c :: '_' :: t  => if isDigit c then (ungroup isDigit t).map (c :: ·) else none
  | c :: t         => if isDigit c then (ungroup isDigit t).map (c :: ·) else none

/-- The value of a hexadecimal digit. -/
def digitValue (c : Char) : Nat :=
  if c.isDigit then c.toNat - '0'.toNat
  else if 'a' ≤ c && c ≤ 'f' then c.toNat - 'a'.toNat + 10
  else c.toNat - 'A'.toNat + 10

/-- The value of digits in a base. -/
def valueOf (base : Nat) (digits : Text) : Nat :=
  digits.foldl (fun n c => base * n + digitValue c) 0

/-- Whether a character is a hexadecimal digit. -/
def isHexDigit (c : Char) : Bool :=
  c.isDigit || ('a' ≤ c && c ≤ 'f') || ('A' ≤ c && c ≤ 'F')

/-- A text without a sign at its start, and whether the sign is a minus. -/
def splitSign : Text → Bool × Text
  | '-' :: t => (true, t)
  | '+' :: t => (false, t)
  | t        => (false, t)

/-- The digits of a decimal number. A zero at the start stands alone. -/
def decimal? (t : Text) : Option Text := do
  let digits ← ungroup Char.isDigit t
  if 1 < t.length && t.head? = some '0' then none else some digits

/-! ### Numbers -/

/-- Whether a text is an integer in the range of 64 bits with a sign. -/
def isInteger (t : Text) : Bool :=
  match t with
  | '0' :: 'x' :: t => fits (ungroup isHexDigit t) 16
  | '0' :: 'o' :: t => fits (ungroup (fun c => '0' ≤ c && c ≤ '7') t) 8
  | '0' :: 'b' :: t => fits (ungroup (fun c => c == '0' || c == '1') t) 2
  | t =>
    let (negative, t) := splitSign t
    (decimal? t).any fun digits =>
      if negative then valueOf 10 digits ≤ Nat.pow 2 63 else valueOf 10 digits < Nat.pow 2 63
where
  /-- Whether there are digits and their value fits. -/
  fits (digits : Option Text) (base : Nat) : Bool :=
    digits.any fun digits => valueOf base digits < Nat.pow 2 63

/-- The parts of a text before and after the first character with a property. -/
def splitAt (p : Char → Bool) (t : Text) : Text × Option Text :=
  match t.dropWhile fun c => !p c with
  | []        => (t, none)
  | _ :: rest => (t.takeWhile fun c => !p c, some rest)

/-- Whether digits times a power of ten are beyond the largest double. -/
def isHuge (digits : Text) (exponent : Int) : Bool :=
  let mantissa := valueOf 10 digits
  let limit := Nat.pow 2 1024 - Nat.pow 2 970
  if mantissa = 0 then
    false
  else if 400 + (digits.length : Int) < exponent then
    true
  else if 0 ≤ exponent then
    limit ≤ mantissa * Nat.pow 10 exponent.toNat
  else if exponent < -400 - (digits.length : Int) then
    false
  else
    limit * Nat.pow 10 (-exponent).toNat ≤ mantissa

/-- Whether a text is a float: a decimal number with a fraction, an exponent or both, or one of the
special values. A positive one must not be too large for a double. -/
def isFloat (t : Text) : Bool :=
  let (negative, t) := splitSign t
  if t = "inf".toList || t = "nan".toList then
    true
  else
    let (mantissa, exponent) := splitAt (fun c => c == 'e' || c == 'E') t
    let (whole, fraction) := splitAt (· == '.') mantissa
    let parts := do
      let whole ← decimal? whole
      let fraction ← match fraction with
        | some t => ungroup Char.isDigit t
        | none   => some []
      let power ← match exponent with
        | some t =>
          let (down, t) := splitSign t
          (ungroup Char.isDigit t).map fun digits =>
            if down then -(valueOf 10 digits : Int) else valueOf 10 digits
        | none => some 0
      return (whole ++ fraction, power - (fraction.length : Int))
    (fraction.isSome || exponent.isSome)
      && parts.any fun (digits, power) => negative || !isHuge digits power

/-! ### Dates and times -/

/-- The number that a count of digits at the start of a text makes, and what follows. -/
def number? (count : Nat) (t : Text) : Option (Nat × Text) :=
  let digits := t.take count
  if digits.length = count && digits.all Char.isDigit then
    some (valueOf 10 digits, t.drop count)
  else
    none

/-- What follows a character. -/
def after? (c : Char) : Text → Option Text
  | a :: t => if a = c then some t else none
  | []     => none

/-- The number of days of a month. -/
def daysInMonth (year month : Nat) : Nat :=
  if month = 2 then
    if year % 4 = 0 && (year % 100 ≠ 0 || year % 400 = 0) then 29 else 28
  else if month = 4 || month = 6 || month = 9 || month = 11 then
    30
  else
    31

/-- What follows a date at the start of a text. -/
def date? (t : Text) : Option Text := do
  let (year, t) ← number? 4 t
  let (month, t) ← number? 2 (← after? '-' t)
  let (day, t) ← number? 2 (← after? '-' t)
  if 1 ≤ month && month ≤ 12 && 1 ≤ day && day ≤ daysInMonth year month then some t else none

/-- What follows a time at the start of a text. -/
def time? (t : Text) : Option Text := do
  let (hour, t) ← number? 2 t
  let (minute, t) ← number? 2 (← after? ':' t)
  let (second, t) ← number? 2 (← after? ':' t)
  if 23 < hour || 59 < minute || 60 < second then none
  match t with
  | '.' :: c :: t => if c.isDigit then some (t.dropWhile Char.isDigit) else none
  | ['.']         => none
  | t             => some t

/-- Whether a text is the distance of a time from universal time. -/
def isOffset (t : Text) : Bool :=
  match t with
  | ['Z'] | ['z'] => true
  | sign :: t     =>
    (sign == '+' || sign == '-') && (do
      let (hour, t) ← number? 2 t
      let (minute, t) ← number? 2 (← after? ':' t)
      if hour ≤ 23 && minute ≤ 59 then some t else none) == some []
  | [] => false

/-- Whether a text is a time, with nothing after it or with an offset if that is allowed. -/
def isTime (offset : Bool) (t : Text) : Bool :=
  (time? t).any fun rest => rest.isEmpty || (offset && isOffset rest)

/-- Whether a text is a date, a time, or both with an offset or without. -/
def isMoment (t : Text) : Bool :=
  isTime false t || (date? t).any fun rest =>
    match rest with
    | []     => true
    | c :: t => (c == 'T' || c == 't' || c == ' ') && isTime true t

/-- Whether a text is a scalar. -/
def isScalar (t : Text) : Bool :=
  t = "true".toList || t = "false".toList || isInteger t || isFloat t || isMoment t

/-! ### Reading -/

/-- Whether a character can be part of a scalar. -/
def isScalarChar (c : Char) : Bool :=
  c.isAlphanum || c == '+' || c == '-' || c == '_' || c == '.' || c == ':'

/-- The scalar at the start of a text, and what follows. A space belongs to it if it stands between
a date and a time. -/
def read? (t : Text) : Option (Text × Text) :=
  let word := t.takeWhile isScalarChar
  let rest := t.dropWhile isScalarChar
  let whole :=
    match rest with
    | ' ' :: a :: b :: ':' :: more =>
      if date? word = some [] && a.isDigit && b.isDigit then
        let clock := a :: b :: ':' :: more
        (word ++ [' '] ++ clock.takeWhile isScalarChar, clock.dropWhile isScalarChar)
      else
        (word, rest)
    | _ => (word, rest)
  if isScalar whole.1 then some whole else none

end Requote.Toml.Scalar
