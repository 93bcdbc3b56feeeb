import Requote.Text
import Requote.Text.Extending
import Requote.Text.Unprintable

/-!
# Quoted text

A text shown between double quotes, so that every character can be told from the outside: the
double quote and the backslash are escaped, the common controls have short escapes, and what does
not print by itself is shown by its number.
-/

namespace Requote.Text

/-- The shown form of one character. -/
def quotedChar (c : Char) : Text :=
  match c with
  | '\x00' => ['\\', '0']
  | '\t'   => ['\\', 't']
  | '\r'   => ['\\', 'r']
  | '\n'   => ['\\', 'n']
  | '"'    => ['\\', '"']
  | '\\'   => ['\\', '\\']
  | c      =>
    if isExtending c || isUnprintable c then
      "\\u\x7b".toList ++ ofNatHex c.toNat ++ ['}']
    else
      [c]

/-- The shown form of a text, with its quotes. -/
def quoted (t : Text) : Text :=
  ['"'] ++ t.flatMap quotedChar ++ ['"']

end Requote.Text
