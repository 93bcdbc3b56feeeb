import Requote.Files
import Requote.Glob.Pattern

/-!
# Finding files by pattern

A pattern is followed through the files one component at a time. A component without wildcards names
one entry; one with wildcards is tried on every name in the directory, in order. Found paths are
shown the way the pattern leads to them. A directory whose shown path is too long cannot be read,
and the search ends there.
-/

namespace Requote.Glob

/-- A path on the way through the files: as it is shown, its key if it is below the working
directory, and whether it was found to be a directory. What a directory holds is known from the
directory itself, so a path that is too long to be followed can still be that of a directory. -/
structure Found where
  shown       : Text
  key?        : Option Key
  isDirectory : Bool

/-- A directory that cannot be read, as it is shown, and why. -/
structure ReadError where
  directory : Text
  error     : FileError
deriving DecidableEq, Repr

/-- The error in words. -/
def ReadError.message (e : ReadError) : Text :=
  "attempting to read `".toList ++ e.directory ++ "` resulted in an error: ".toList
    ++ e.error.message

/-- What a search comes upon: a path, or a directory that cannot be read. -/
abbrev Hit := Except ReadError Found

namespace Found

/-- Whether the path is short enough to be followed. -/
def isShort (f : Found) : Bool :=
  f.shown.size ≤ Path.maxSize

/-- A path that has to be followed to see whether it leads to a directory. What is not below the
working directory counts as one. -/
def ofPath (files : Files) (shown : Text) (key? : Option Key) : Found :=
  ⟨shown, key?, shown.size ≤ Path.maxSize && key?.all files.isDirectory⟩

/-- Whether the path is shown as the working directory itself. -/
def isCurrent (f : Found) : Bool :=
  f.shown.head? = some '.' && (Path.split f.shown).all Path.isIdle

/-- The last name on the way. -/
def name (f : Found) : Text :=
  ((f.key?.bind List.getLast?).getD [])

/-- The shown form of what is under a name in a directory. -/
def shownInside (f : Found) (name : Text) : Text :=
  if f.isCurrent then name else Path.append f.shown name

/-- The directory that a dot or two lead to. -/
def special (files : Files) (f : Found) (shown : Text) (up : Bool) : Found :=
  ofPath files shown (if up then f.key?.bind Files.parent? else f.key?)

/-- What a name leads to. A dot and two dots need a directory only; any other name has to be
there. -/
def inside? (files : Files) (f : Found) (name : Text) : Option Found :=
  let shown := f.shownInside name
  if name = ['.'] ∨ name = ['.', '.'] then
    if f.isDirectory then some (f.special files shown (name.length = 2)) else none
  else if Path.maxSize < shown.size then
    none
  else if name.isEmpty then
    if f.isDirectory && !f.isCurrent then some (ofPath files shown f.key?) else none
  else
    f.key?.bind fun key =>
      if (files.get? (key ++ [name])).isSome then
        some (ofPath files shown (some (key ++ [name])))
      else
        none

/-- The path with the names that lead from its key to a longer one. -/
def extend (files : Files) (f : Found) (key : Key) : Found :=
  let names := key.drop ((f.key?.map List.length).getD 0)
  ⟨if f.isCurrent then Path.join names else names.foldl Path.append f.shown, some key,
    files.isDirectory key⟩

/-- The error of reading the directory, if its path is too long. -/
def readError? (f : Found) : Option ReadError :=
  if f.isShort then none else some ⟨f.shown, .nameTooLong⟩

/-- What is in the directory, by name. -/
def children (files : Files) (f : Found) : List Found :=
  (f.key?.map fun key => (files.children key).map (f.extend files)).getD []

/-- What is in the directory and in those below it that can be read. -/
def below (files : Files) (f : Found) : List Found :=
  (f.key?.map fun key =>
    ((files.below key).filter fun k => (f.extend files k.dropLast).isShort).map
      (f.extend files)).getD []

/-- The dot and the two dots, which a pattern finds only if it starts with a dot. -/
def specials (files : Files) (f : Found) (pieces : List Piece) : List Found :=
  if pieces.head? = some (.char '.') then
    [['.', '.'], ['.']].filterMap fun name =>
      if Piece.standFor pieces name then
        some (f.special files (Path.append f.shown name) (name.length = 2))
      else
        none
  else
    []

end Found

/-- What the components of a pattern come upon from a path on. Below a component that stands for any
number of directories, what a path leads to comes before what is in it. -/
def search (files : Files) (onlyDirectories : Bool) : List (List Piece) → Found → List Hit
  | [],             _ => []
  | pieces :: rest, f =>
    let arrive (g : Found) : List Hit :=
      match rest with
      | []     => if onlyDirectories && !g.isDirectory then [] else [.ok g]
      | _ :: _ => search files onlyDirectories rest g
    match Piece.literal? pieces with
    | some name => ((f.inside? files name).map arrive).getD []
    | none      =>
      if !f.isDirectory then
        []
      else if let some e := f.readError? then
        [.error e]
      else if pieces = [.anyDirectories] then
        (f.below files).flatMap fun g =>
          (match rest with
            | []           => if g.isDirectory then [.ok g] else []
            | next :: rest =>
              if Piece.standFor next g.name then
                match rest with
                | []     => if onlyDirectories && !g.isDirectory then [] else [.ok g]
                | _ :: _ => search files onlyDirectories rest g
              else
                [])
            ++ if g.isDirectory then g.readError?.toList.map .error else []
      else
        (f.specials files pieces).flatMap arrive
          ++ ((f.children files).filter fun g => Piece.standFor pieces g.name).flatMap arrive

/-- The components of a pattern; a slash at the end does not start another one. -/
def components (pattern : Text) : List Text :=
  let pieces := Path.split pattern
  if pieces.getLast? = some [] then pieces.dropLast else pieces

/-- Components with each run of those that stand for any number of directories made into one. -/
def collapse : List (List Piece) → List (List Piece)
  | a :: b :: rest =>
    if a = [.anyDirectories] ∧ b = [.anyDirectories] then collapse (b :: rest)
    else a :: collapse (b :: rest)
  | rest => rest

/-- The paths that a search finds, up to a directory that cannot be read. -/
structure Finding where
  paths  : List Text
  error? : Option ReadError

/-- The finding of a search that comes upon hits in order. -/
def Finding.ofHits : List Hit → Finding
  | []              => ⟨[], none⟩
  | .error e :: _   => ⟨[], some e⟩
  | .ok f :: hits   =>
    let rest := ofHits hits
    ⟨f.shown :: rest.paths, rest.error?⟩

/-- What a pattern finds. The pattern is read as a whole before its components are. -/
def find (files : Files) (pattern : Text) : Except PatternError Finding := do
  let _ ← readPieces 0 none pattern
  let absolute := pattern.head? = some '/'
  let relative := if absolute then pattern.tail else pattern
  let pieces ← (components relative).mapM (readPieces 0 none)
  let pieces := if relative.isEmpty then [[]] else collapse pieces
  let start : Found := if absolute then ⟨['/'], none, true⟩ else ⟨['.'], some [], true⟩
  return .ofHits (search files (pattern.getLast? = some '/') pieces start)

end Requote.Glob
