import Requote.Literal
import Requote.Text.Alphanumeric
import Requote.Text.Blank

/-!
# Tokens

A source text is read as a row of tokens that tile it. Only what decides where strings and
interpolations begin and end is told apart: comments, string bodies, brackets, operators that bind
no tighter than `+`, and blanks. Everything else is one character at a time.
-/

namespace Requote

/-- The three kinds of bracket. -/
inductive Bracket where
  | round
  | square
  | curly
deriving DecidableEq, Repr

namespace Bracket

/-- The bracket that a character opens. -/
def ofOpening? : Char → Option Bracket
  | '(' => some round
  | '[' => some square
  | '{' => some curly
  | _   => none

/-- The bracket that a character closes. -/
def ofClosing? : Char → Option Bracket
  | ')' => some round
  | ']' => some square
  | '}' => some curly
  | _   => none

/-- The opening character. -/
def opening : Bracket → Char
  | round  => '('
  | square => '['
  | curly  => '{'

/-- The closing character. -/
def closing : Bracket → Char
  | round  => ')'
  | square => ']'
  | curly  => '}'

end Bracket

/-- A token, with the characters it is made of. -/
inductive Token where
  | comment (text : Text)
  | body (delimiters : Delimiters) (text : Text)
  | opening (bracket : Bracket)
  | closing (bracket : Bracket)
  | operator (text : Text)
  | blank (text : Text)
  | other (text : Text)
deriving DecidableEq, Repr

namespace Token

/-- The characters of a token. -/
def text : Token → Text
  | comment t  => t
  | body d t   => d.wrap t
  | opening b  => [b.opening]
  | closing b  => [b.closing]
  | operator t => t
  | blank t    => t
  | other t    => t

/-! ### Comments -/

/-- Splits after the first `*/`, or at the end. -/
def splitBlock : Text → Text × Text
  | []                => ([], [])
  | '*' :: '/' :: t   => (['*', '/'], t)
  | c :: t            => (c :: (splitBlock t).1, (splitBlock t).2)

/-- Splits before the first line terminator, or at the end. -/
def splitLine (t : Text) : Text × Text :=
  (t.takeWhile fun c => !Text.isTerminator c, t.dropWhile fun c => !Text.isTerminator c)

/-! ### Bodies of literals -/

/-- What is found when a body is read up to its end: the body, what ended it, and what follows. -/
structure Reading (ε : Type) where
  body  : Text
  ended : ε
  rest  : Text

/-- The same reading with more of the body in front. -/
def Reading.push {ε : Type} (before : Text) (r : Reading ε) : Reading ε :=
  { r with body := before ++ r.body }

/-- Reads a quoted body. It ends closed at its quote, and cut off at the end of the text or in front
of a line terminator that is not escaped. -/
def readQuoted (quote : Char) : Text → Reading Bool
  | []                        => ⟨[], false, []⟩
  | '\\' :: '\r' :: '\n' :: t => (readQuoted quote t).push ['\\', '\r', '\n']
  | '\\' :: c :: t            => (readQuoted quote t).push ['\\', c]
  | c :: t                    =>
    if c = quote then
      ⟨[], true, t⟩
    else if Text.isTerminator c then
      ⟨[], false, c :: t⟩
    else
      (readQuoted quote t).push [c]

/-- Reads a template body. It ends at a backtick, at the start of an interpolation, or cut off at
the end of the text. -/
def readTemplate : Text → Reading (Option Closing)
  | []                        => ⟨[], none, []⟩
  | '\\' :: '\r' :: '\n' :: t => (readTemplate t).push ['\\', '\r', '\n']
  | '\\' :: c :: t            => (readTemplate t).push ['\\', c]
  | '\x60' :: t               => ⟨[], some .backtick, t⟩
  | '$' :: '{' :: t           => ⟨[], some .interpolation, t⟩
  | c :: t                    => (readTemplate t).push [c]

/-! ### Operators -/

/-- The operators that bind no tighter than `+`, longer ones first. -/
def symbols : List Text :=
  [">>>=", ">>>", "===", "!==", "**=", "<<=", ">>=", "&&=", "||=", "??=", "=>", "==", "!=", "<=",
    ">=", "+=", "-=", "*=", "/=", "%=", "&=", "|=", "^=", "&&", "||", "??", "<<", ">>", "+", "-",
    "&", "|", "^", "?", ":", "<", ">", "=", ","].map String.toList

/-- The operators that are words and bind looser than `+`. -/
def words : List Text :=
  ["instanceof", "satisfies", "in", "as"].map String.toList

/-- Whether a character can be part of a name. -/
def isNameChar (c : Char) : Bool :=
  Text.isAlphanumeric c || c == '_' || c == '$'

/-- Whether `?.` stands here as member access. Before a digit it is `?` and a number. -/
def startsWithMemberAccess : Text → Bool
  | '?' :: '.' :: t => !(t.head?.any Char.isDigit)
  | _               => false

/-- The symbol at the start of a text. -/
def symbol? (t : Text) : Option Text :=
  symbols.find? fun s => s.isPrefixOf t

/-- The word operator at the start of a text. It must stand alone, and not be the name of a
member. -/
def word? (previous : Option Char) (t : Text) : Option Text :=
  if previous.any fun c => isNameChar c || c == '.' then
    none
  else
    words.find? fun w => w.isPrefixOf t && !((t.drop w.length).head?.any isNameChar)

/-- The operator at the start of a text, `previous` being the character in front. -/
def operator? (previous : Option Char) (t : Text) : Option Text :=
  if startsWithMemberAccess t then none else (symbol? t).orElse fun _ => word? previous t

/-! ### The next token -/

/-- Reads a token off a text that starts with `c`. `previous` is the character in front, and
`resumes` says that a closing brace ends an interpolation here. -/
def read (previous : Option Char) (resumes : Bool) (c : Char) (t : Text) : Token × Text :=
  if c = '/' ∧ t.head? = some '*' then
    let (inside, rest) := splitBlock t.tail
    (comment ('/' :: '*' :: inside), rest)
  else if c = '/' ∧ t.head? = some '/' then
    let (inside, rest) := splitLine t
    (comment (c :: inside), rest)
  else if let some q := Quote.ofChar? c then
    let r := readQuoted c t
    (body (.quoted q r.ended) r.body, r.rest)
  else if c = '\x60' then
    let r := readTemplate t
    (body (.template .backtick r.ended) r.body, r.rest)
  else if c = '}' ∧ resumes then
    let r := readTemplate t
    (body (.template .brace r.ended) r.body, r.rest)
  else if let some b := Bracket.ofOpening? c then
    (opening b, t)
  else if let some b := Bracket.ofClosing? c then
    (closing b, t)
  else if let some symbol := operator? previous (c :: t) then
    (operator symbol, (c :: t).drop symbol.length)
  else if Text.isBlank c then
    (blank (c :: t.takeWhile Text.isBlank), t.dropWhile Text.isBlank)
  else if c = '?' ∧ t.head? = some '.' then
    (other ['?', '.'], t.tail)
  else
    (other [c], t)

/-- The next token of a text and what follows it. -/
def next? (previous : Option Char) (resumes : Bool) : Text → Option (Token × Text)
  | []     => none
  | c :: t => some (read previous resumes c t)

end Token

end Requote
