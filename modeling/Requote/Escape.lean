import Requote.Literal
import Requote.Text.Blank

/-!
# Escapes

The body of a literal is read in atoms: a character that stands for itself, or a backslash together
with what it escapes. Converting a body from one kind of literal to another rewrites its atoms, one
or two at a time, and keeps every escape that means the same in both kinds.
-/

namespace Requote

/-- One unit of a body. -/
inductive Atom where
  /-- A character without a backslash. -/
  | plain (c : Char)
  /-- A backslash and the character it escapes. -/
  | escape (c : Char)
  /-- A backslash and the two characters of a carriage return with its line feed. -/
  | escapeReturnFeed
  /-- A backslash at the end of the body, which escapes nothing. -/
  | dangling
deriving Repr

namespace Atom

/-- The atom as it is written. -/
def text : Atom → Text
  | plain c          => [c]
  | escape c         => ['\\', c]
  | escapeReturnFeed => ['\\', '\r', '\n']
  | dangling         => ['\\']

/-- The atoms of a body, from left to right. -/
def read : Text → List Atom
  | []                         => []
  | '\\' :: '\r' :: '\n' :: t  => escapeReturnFeed :: read t
  | '\\' :: c :: t             => escape c :: read t
  | ['\\']                     => [dangling]
  | c :: t                     => plain c :: read t

/-- The text that a list of atoms spells. -/
def spell (atoms : List Atom) : Text :=
  atoms.flatMap text

@[simp]
theorem spell_nil : spell [] = [] := rfl

@[simp]
theorem spell_cons (a : Atom) (as : List Atom) : spell (a :: as) = a.text ++ spell as := by
  simp [spell]

/-- Reading loses nothing. -/
@[simp]
theorem spell_read (t : Text) : spell (read t) = t := by
  fun_induction read t <;> simp_all [text]

end Atom

namespace Escape

/-! ### Between the two quotes -/

/-- One atom of a body that changes from one quote to the other. -/
def swapAtom (source target : Char) : Atom → Text
  | .escape c => if c = source then [c] else ['\\', c]
  | .plain c  => if c = target then ['\\', c] else [c]
  | a         => a.text

/-- A quoted body for the other quote: the old quote needs no backslash any more, the new one
does. -/
def swapQuotes (source target : Quote) (body : Text) : Text :=
  (Atom.read body).flatMap (swapAtom source.char target.char)

/-! ### From a quoted body to a template body -/

/-- A backslash and a line feed, a carriage return, or both: the text after the backslash. -/
def continuation? : Atom → Option Text
  | .escapeReturnFeed => some ['\r', '\n']
  | .escape '\n'      => some ['\n']
  | .escape '\r'      => some ['\r']
  | _                 => none

/-- The atoms of a quoted body, written in a template body. -/
def templateOfAtoms : List Atom → Text
  | [] => []
  | .escape 'n' :: a :: as =>
    match continuation? a with
    | some newline => newline ++ templateOfAtoms as
    | none         => ['\\', 'n'] ++ templateOfAtoms (a :: as)
  | .plain '$' :: .plain '{' :: as => ['\\', '$', '{'] ++ templateOfAtoms as
  | .plain '\x60' :: as            => ['\\', '\x60'] ++ templateOfAtoms as
  | .escape '\'' :: as             => '\'' :: templateOfAtoms as
  | .escape '"' :: as              => '"' :: templateOfAtoms as
  | a :: as                        => a.text ++ templateOfAtoms as

/-- A quoted body as a template body. An escaped line feed in front of a line continuation is a line
break of the template. Quotes lose their backslash; a backtick and the start of an interpolation
gain one. -/
def templateOfNormal (body : Text) : Text :=
  templateOfAtoms (Atom.read body)

/-! ### From a template body to a quoted body -/

/-- The atoms of a template body, written in a body quoted with `quote`. -/
def normalOfAtoms (quote : Char) : List Atom → Text
  | [] => []
  | .escape '\x60' :: as             => '\x60' :: normalOfAtoms quote as
  | .escape '$' :: .escape '{' :: as => ['$', '{'] ++ normalOfAtoms quote as
  | .escape '$' :: .plain '{' :: as  => ['$', '{'] ++ normalOfAtoms quote as
  | .plain '$' :: .escape '{' :: as  => ['$', '{'] ++ normalOfAtoms quote as
  | .plain '\r' :: .plain '\n' :: as => "\\n\\\r\n".toList ++ normalOfAtoms quote as
  | .plain '\r' :: as                => "\\n\\\r".toList ++ normalOfAtoms quote as
  | .plain '\n' :: as                => "\\n\\\n".toList ++ normalOfAtoms quote as
  | .plain c :: as =>
    if c = quote then ['\\', c] ++ normalOfAtoms quote as else c :: normalOfAtoms quote as
  | a :: as                          => a.text ++ normalOfAtoms quote as

/-- A template body as a quoted body. Backticks and escaped interpolation starts become bare, the
quote gains a backslash, and a line break becomes an escaped line feed and a line continuation. -/
def normalOfTemplate (quote : Quote) (body : Text) : Text :=
  normalOfAtoms quote.char (Atom.read body)

/-! ### Between any two kinds -/

/-- A body of one kind of literal as a body of another. -/
def convert (source target : Kind) (body : Text) : Text :=
  match source, target with
  | .normal p, .normal q => if p = q then body else swapQuotes p q body
  | .normal _, .template => templateOfNormal body
  | .template, .normal q => normalOfTemplate q body
  | .template, .template => body

/-- A converted body between the delimiters of its new kind. -/
def convertAndWrap (source target : Kind) (first last : Bool) (body : Text) : Text :=
  (Delimiters.ofKind target first last).wrap (convert source target body)

end Escape

end Requote
