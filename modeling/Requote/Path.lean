import Requote.Text

/-!
# Paths

A path is a text whose components stand between slashes.
-/

namespace Requote.Path

/-- The largest size of a path. -/
def maxSize : Nat := 4095

/-- The largest size of a component. -/
def maxNameSize : Nat := 255

/-- The pieces of a text between slashes. -/
def split : Text → List Text
  | []     => [[]]
  | c :: t =>
    if c = '/' then
      [] :: split t
    else
      match split t with
      | []      => [[c]]
      | p :: ps => (c :: p) :: ps

/-- Whether a piece between slashes leads nowhere: it is empty or a dot. -/
def isIdle (piece : Text) : Bool :=
  piece.isEmpty || piece == ['.']

/-- The last component, if it is a name: not the root, nor a dot or two. -/
def fileName? (path : Text) : Option Text :=
  match (split path).reverse.dropWhile isIdle with
  | []        => none
  | piece :: _ => if piece = ['.', '.'] then none else some piece

/-- The part of a name behind its last dot. A dot at the start of a name does not count. -/
def extensionOfName? (name : Text) : Option Text :=
  let behind := name.reverse.takeWhile (· ≠ '.')
  let before := name.reverse.dropWhile (· ≠ '.')
  match before with
  | _ :: _ :: _ => some behind.reverse
  | _           => none

/-- The extension of a path, without the dot. -/
def extension? (path : Text) : Option Text :=
  (fileName? path).bind extensionOfName?

/-- Names with slashes between them. -/
def join : List Text → Text
  | []            => []
  | [name]        => name
  | name :: names => name ++ ['/'] ++ join names

/-- A path with one more component. A path that ends in a slash gets no other one. -/
def append (path name : Text) : Text :=
  if path.isEmpty || path.getLast? = some '/' then path ++ name else path ++ ['/'] ++ name

end Requote.Path
