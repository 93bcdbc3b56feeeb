import Mathlib
import Requote.Files

/-!
# Overwriting a file

A path that leads to a file leads there still after the file was overwritten, and so does every
other path to where it led before. What the other keys lead to is the same, and the file has the new
text.
-/

namespace Requote

namespace Files

variable {files : Files} {key key' : Key} {entry : Entry} {path path' : Text} {old new : ByteArray}
  {text text' : Text}

/-! ### Keys -/

end Files

end Requote
