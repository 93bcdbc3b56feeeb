import Requote.Text

/-!
# Colours

Texts for a terminal, with the sequences that switch a colour or bold letters on and off.
-/

namespace Requote.Text

/-- A colour of letters. -/
inductive Colour where
  | red
  | green
  | yellow
  | blue
  | cyan
deriving DecidableEq, Repr

/-- The number that switches a colour on. -/
def Colour.code : Colour → Nat
  | red    => 31
  | green  => 32
  | yellow => 33
  | blue   => 34
  | cyan   => 36

/-- The sequence that sets a property of letters by its number. -/
def setLetters (code : Nat) : Text :=
  ['\x1b', '['] ++ ofNat code ++ ['m']

/-- A text in a colour. -/
def coloured (colour : Colour) (t : Text) : Text :=
  setLetters colour.code ++ t ++ setLetters 39

/-- A text in bold letters. -/
def bold (t : Text) : Text :=
  setLetters 1 ++ t ++ setLetters 0

end Requote.Text
