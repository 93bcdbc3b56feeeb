import Requote.Path

/-!
# Files

The files and directories below the working directory, as a value. Each has a key: the names of the
directories on the way to it and its own name. A path is followed one component at a time, and it is
an error to go on from something that is not there or not a directory. A path may also leave the
working directory; of what is outside only the directories on the way up to the root are known.
-/

namespace Requote

/-- The names on the way to a file or directory, from the working directory. -/
abbrev Key := List Text

/-- What a key leads to. -/
inductive Entry where
  | file (bytes : ByteArray)
  | directory

/-- Why a path cannot be read. -/
inductive FileError where
  | notFound
  | notDirectory
  | isDirectory
  | nameTooLong
  | notText
deriving DecidableEq, Repr

/-- The error in words. -/
def FileError.message : FileError → Text
  | notFound     => "No such file or directory (os error 2)".toList
  | notDirectory => "Not a directory (os error 20)".toList
  | isDirectory  => "Is a directory (os error 21)".toList
  | nameTooLong  => "File name too long (os error 36)".toList
  | notText      => "stream did not contain valid UTF-8".toList

/-- The files and directories below the working directory, which itself has the empty key. -/
structure Files where
  entries : List (Key × Entry) := []

namespace Files

/-- What a key leads to. -/
def get? (files : Files) (key : Key) : Option Entry :=
  if key.isEmpty then some .directory else files.entries.lookup key

/-- Whether a key leads to a directory. -/
def isDirectory (files : Files) (key : Key) : Bool :=
  match files.get? key with
  | some .directory => true
  | _               => false

/-! ### Following a path -/

/-- The key of the directory around that of a key. Around the working directory there is none. -/
def parent? (key : Key) : Option Key :=
  if key.isEmpty then none else some key.dropLast

/-- What a path leads to that has come to a key, or to a directory outside the working directory. -/
def entryAt? (files : Files) (key? : Option Key) : Option Entry :=
  match key? with
  | some key => files.get? key
  | none     => some .directory

/-- Goes on from a directory by one component. An empty component and a dot stay where they are. -/
def step (files : Files) (key? : Option Key) (name : Text) : Except FileError (Option Key) :=
  if Path.isIdle name then
    .ok key?
  else if name = ['.', '.'] then
    .ok (key?.bind parent?)
  else if Path.maxNameSize < name.size then
    .error .nameTooLong
  else
    match key? with
    | none     => .error .notFound
    | some key =>
      if (files.get? (key ++ [name])).isSome then .ok (some (key ++ [name])) else .error .notFound

/-- Follows the components of a path. -/
def follow (files : Files) (key? : Option Key) : List Text → Except FileError (Option Key)
  | []            => .ok key?
  | name :: names =>
    match files.entryAt? key? with
    | none            => .error .notFound
    | some (.file _)  => .error .notDirectory
    | some .directory => do files.follow (← files.step key? name) names

/-- The key that a path leads to, or none for a directory outside the working directory. -/
def key? (files : Files) (path : Text) : Except FileError (Option Key) :=
  if path.isEmpty then .error .notFound
  else if Path.maxSize < path.size then .error .nameTooLong
  else files.follow (if path.head? = some '/' then none else some []) (Path.split path)

/-- The text of the file at a path. -/
def read (files : Files) (path : Text) : Except FileError Text := do
  match files.entryAt? (← files.key? path) with
  | none               => .error .notFound
  | some .directory    => .error .isDirectory
  | some (.file bytes) =>
    match Text.ofBytes? bytes with
    | some text => .ok text
    | none      => .error .notText

/-! ### Changing files -/

/-- Replaces what a key leads to. Keys that lead nowhere are added. -/
def insert (files : Files) (key : Key) (entry : Entry) : Files :=
  if (files.get? key).isSome then
    ⟨files.entries.map fun (k, e) => if k = key then (k, entry) else (k, e)⟩
  else
    ⟨files.entries ++ [(key, entry)]⟩

/-- Writes a text to the file at a path, if the path leads to something in the working directory. -/
def write (files : Files) (path : Text) (text : Text) : Files :=
  match files.key? path with
  | .ok (some key) => files.insert key (.file text.toBytes)
  | _              => files

/-- Adds what is at a path, and the directories on the way to it. A path that ends in a slash is
that of a directory. -/
def add (files : Files) (path : Text) (bytes : ByteArray) : Files :=
  let names := (Path.split path).filter fun name => !Path.isIdle name
  let parents := ((List.range names.length).drop 1).map fun n => names.take n
  let files := parents.foldl (fun files key => files.insert key .directory) files
  files.insert names (if path.getLast? = some '/' then .directory else .file bytes)

/-! ### Listing -/

/-- Whether a key comes before another: a directory before what is in it, names by code points. -/
def keyNotAfter : Key → Key → Bool
  | [],     _      => true
  | _ :: _, []     => false
  | a :: s, b :: t => if a = b then keyNotAfter s t else Text.notAfter a b

/-- The keys below a directory, without that of the directory: each directory is followed by what is
in it, and names are in the order of code points. -/
def below (files : Files) (key : Key) : List Key :=
  ((files.entries.map Prod.fst).filter fun k => key.isPrefixOf k && key.length < k.length).mergeSort
    keyNotAfter

/-- The keys of what is in a directory, by name. -/
def children (files : Files) (key : Key) : List Key :=
  (files.below key).filter fun k => k.length = key.length + 1

/-- The regular files with their paths. -/
def contents (files : Files) : List (Text × ByteArray) :=
  files.entries.filterMap fun (key, entry) =>
    match entry with
    | .file bytes => some (Path.join key, bytes)
    | .directory  => none

end Files

end Requote
