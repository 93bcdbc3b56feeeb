import Requote.Toml
import Requote.Toml.Scalar

/-!
# Reading TOML

A document is read line by line: keys with values, headers of tables, comments and empty lines. Each
reader takes a text and gives what it read with the text that follows, or nothing if the text has
another form.
-/

namespace Requote.Toml

/-- Reads the start of a text, or fails. -/
abbrev Reader := StateT Text Option

namespace Reader

/-! ### Blanks and comments -/

/-- Whether a character is a space or a tab. -/
def isSpace (c : Char) : Bool :=
  c == ' ' || c == '\t'

/-- Whether a character may stand in a comment, and for itself in a string: no control but the
tab. -/
def isPlain (c : Char) : Bool :=
  c == '\t' || (' ' ≤ c && c ≠ '\x7f')

/-- Skips spaces and tabs. -/
def spaces : Reader Unit :=
  modify fun t => t.dropWhile isSpace

/-- Reads a character. -/
def char (c : Char) : Reader Unit := fun
  | a :: t => if a = c then some ((), t) else none
  | []     => none

/-- Reads the end of a line, or of the document. -/
def lineBreak : Reader Unit := fun
  | []                => some ((), [])
  | '\n' :: t         => some ((), t)
  | '\r' :: '\n' :: t => some ((), t)
  | _                 => none

/-- Reads what may follow in a line: spaces and a comment, then the end of the line. -/
def lineEnd : Reader Unit := do
  spaces
  match ← get with
  | '#' :: t =>
    set (t.dropWhile isPlain)
    lineBreak
  | _ => lineBreak

/-- Skips spaces, ends of lines and comments. -/
def void (inComment : Bool) : Text → Option (Unit × Text)
  | []                => some ((), [])
  | '\r' :: '\n' :: t => void false t
  | c :: t            =>
    if c = '\n' then void false t
    else if inComment then (if isPlain c then void true t else none)
    else if c = '#' then void true t
    else if isSpace c then void false t
    else some ((), c :: t)

/-! ### Strings -/

/-- The character that an escape with one letter stands for. -/
def escape? : Char → Option Char
  | 'b'  => some '\x08'
  | 't'  => some '\t'
  | 'n'  => some '\n'
  | 'f'  => some '\x0c'
  | 'r'  => some '\r'
  | '"'  => some '"'
  | '\\' => some '\\'
  | _    => none

/-- The character with a number in hexadecimal digits. -/
def numbered? (digits : Text) : Option Char :=
  let n := Scalar.valueOf 16 digits
  if digits.all Scalar.isHexDigit && n.isValidChar then some (Char.ofNat n) else none

/-- A reading with one more character in front. -/
def push (c : Char) (r : Option (Text × Text)) : Option (Text × Text) :=
  r.map fun (s, t) => (c :: s, t)

/-- Reads a string after its opening double quote. -/
def basic : Text → Option (Text × Text)
  | []                                        => none
  | '"' :: t                                  => some ([], t)
  | '\\' :: 'u' :: a :: b :: c :: d :: t      => do push (← numbered? [a, b, c, d]) (basic t)
  | '\\' :: 'U' :: a :: b :: c :: d :: e :: f :: g :: h :: t =>
    do push (← numbered? [a, b, c, d, e, f, g, h]) (basic t)
  | '\\' :: c :: t                            => do push (← escape? c) (basic t)
  | c :: t => if isPlain c && c ≠ '\\' then push c (basic t) else none

/-- Reads a string after its opening single quote. -/
def literal : Text → Option (Text × Text)
  | []        => none
  | '\'' :: t => some ([], t)
  | c :: t    => if isPlain c then push c (literal t) else none

/-- Whether only spaces stand before the end of the line. -/
def startsBreak (t : Text) : Bool :=
  match t.dropWhile isSpace with
  | '\n' :: _         => true
  | '\r' :: '\n' :: _ => true
  | _                 => false

/-- Reads a string of several lines after its three opening double quotes. While `skipping`, blanks
and ends of lines do not count. -/
def basicLines (skipping : Bool) : Text → Option (Text × Text)
  | []                                               => none
  | '"' :: '"' :: '"' :: '"' :: '"' :: t             => some (['"', '"'], t)
  | '"' :: '"' :: '"' :: '"' :: t                    => some (['"'], t)
  | '"' :: '"' :: '"' :: t                           => some ([], t)
  | '\\' :: 'u' :: a :: b :: c :: d :: t             =>
    do push (← numbered? [a, b, c, d]) (basicLines false t)
  | '\\' :: 'U' :: a :: b :: c :: d :: e :: f :: g :: h :: t =>
    do push (← numbered? [a, b, c, d, e, f, g, h]) (basicLines false t)
  | '\r' :: '\n' :: t =>
    if skipping then basicLines true t else push '\n' (basicLines false t)
  | '\\' :: c :: t =>
    if startsBreak (c :: t) then basicLines true (c :: t)
    else do push (← escape? c) (basicLines false t)
  | c :: t =>
    if skipping && (isSpace c || c == '\n') then basicLines true t
    else if c == '\n' || (isPlain c && c ≠ '\\') then push c (basicLines false t)
    else none

/-- Reads a string of several lines after its three opening single quotes. -/
def literalLines : Text → Option (Text × Text)
  | []                                        => none
  | '\'' :: '\'' :: '\'' :: '\'' :: '\'' :: t => some (['\'', '\''], t)
  | '\'' :: '\'' :: '\'' :: '\'' :: t         => some (['\''], t)
  | '\'' :: '\'' :: '\'' :: t                 => some ([], t)
  | '\r' :: '\n' :: t                         => push '\n' (literalLines t)
  | c :: t => if c == '\n' || isPlain c then push c (literalLines t) else none

/-- A text without a line break at its start. -/
def dropBreak : Text → Text
  | '\n' :: t         => t
  | '\r' :: '\n' :: t => t
  | t                 => t

/-- Reads a string of any of the four forms. -/
def string : Reader Text := fun
  | '"' :: '"' :: '"' :: t    => basicLines false (dropBreak t)
  | '\'' :: '\'' :: '\'' :: t => literalLines (dropBreak t)
  | '"' :: t                  => basic t
  | '\'' :: t                 => literal t
  | _                         => none

/-! ### Keys -/

/-- Whether a character can be part of a key without quotes. -/
def isBareChar (c : Char) : Bool :=
  c.isAlphanum || c == '_' || c == '-'

/-- Reads a key between dots. -/
def simpleKey : Reader Text := fun
  | '"' :: t  => basic t
  | '\'' :: t => literal t
  | t         =>
    if (t.takeWhile isBareChar).isEmpty then none
    else some (t.takeWhile isBareChar, t.dropWhile isBareChar)

/-- The largest number of levels that values, or the parts of a key, may have. -/
def maxDepth : Nat := 79

/-- Reads a key with its parts between dots, at most `fuel` of them. -/
def dottedKey : Nat → Reader (List Text)
  | 0        => failure
  | fuel + 1 => do
    spaces
    let first ← simpleKey
    spaces
    match ← get with
    | '.' :: t =>
      set t
      return first :: (← dottedKey fuel)
    | _ => return [first]

/-- Reads a key: the parts that lead to it, and its last part. -/
def key : Reader (List Text × Text) := do
  let parts ← dottedKey maxDepth
  match parts.getLast? with
  | some name => return (parts.dropLast, name)
  | none      => failure

/-! ### Values -/

mutual

/-- Reads a value with at most `depth` levels of brackets and braces. -/
def value : Nat → Nat → Reader Value
  | 0,        _     => failure
  | fuel + 1, depth => do
    match ← get with
    | '"' :: _ | '\'' :: _ => return .text (← string)
    | '[' :: t =>
      if depth = 0 then failure
      set t
      return .array (← items fuel (depth - 1))
    | '{' :: t =>
      if depth = 0 then failure
      set t
      spaces
      match ← get with
      | '}' :: t =>
        set t
        return .table .inline []
      | _ => return .table .inline (← entries fuel (depth - 1) [])
    | _ =>
      let _ ← (Scalar.read? : Reader Text)
      return .scalar

/-- Reads the values of an array up to its closing bracket. -/
def items : Nat → Nat → Reader (List Value)
  | 0,        _     => failure
  | fuel + 1, depth => do
    void false
    match ← get with
    | ']' :: t =>
      set t
      return []
    | _ =>
      let first ← value fuel depth
      void false
      match ← get with
      | ',' :: t =>
        set t
        return first :: (← items fuel depth)
      | ']' :: t =>
        set t
        return [first]
      | _ => failure

/-- Reads the entries of a table between braces up to the closing one. -/
def entries : Nat → Nat → Entries → Reader Entries
  | 0,        _,     _    => failure
  | fuel + 1, depth, done => do
    let (path, name) ← key
    char '='
    spaces
    let v ← value fuel depth
    spaces
    let done ← StateT.lift (Entries.setKey name v true path done)
    match ← get with
    | ',' :: t =>
      set t
      entries fuel depth done
    | '}' :: t =>
      set t
      return done
    | _ => failure

end

/-! ### Documents -/

/-- Reads one line, with all lines of the value in it. -/
def line (b : Builder) : Reader Builder := do
  spaces
  let t ← get
  match t with
  | '[' :: '[' :: rest =>
    set rest
    let (parents, name) ← key
    char ']'
    char ']'
    lineEnd
    StateT.lift (b.openRow parents name)
  | '[' :: rest =>
    set rest
    let (parents, name) ← key
    char ']'
    lineEnd
    StateT.lift (b.openTable parents name)
  | c :: _ =>
    if c = '#' || c = '\n' || c = '\r' then
      lineEnd
      return b
    else
      let (path, name) ← key
      char '='
      spaces
      let v ← value (2 * t.length + 1) maxDepth
      lineEnd
      StateT.lift (b.setKey path name v)
  | [] => return b

/-- Reads the lines of a document, at most `fuel` of them. -/
def lines (b : Builder) : Nat → Reader Builder
  | 0        => return b
  | fuel + 1 => do
    if (← get).isEmpty then return b
    lines (← line b) fuel

end Reader

/-- The table that a document describes. -/
def parse? (document : Text) : Option Entries := do
  let t := if document.head? = some '\ufeff' then document.tail else document
  let (b, _) ← (Reader.lines {} (t.length + 1)).run t
  b.close

/-- The configuration that a document describes. -/
def config? (document : Text) : Option Config := do
  Config.ofSetting? Config.Setting.isEmpty (Value.table .header (← parse? document)).setting

end Requote.Toml
