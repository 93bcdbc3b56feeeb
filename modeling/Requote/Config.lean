import Requote.Literal
import Requote.Path
import Requote.Text.Quoted

/-!
# Configuration

Which quote a template becomes, and which files are converted.
-/

namespace Requote

/-- The quote that a template becomes: a fixed one, or the common one of the document. -/
inductive QuoteStyle where
  | infer
  | single
  | double
deriving DecidableEq, Repr

namespace QuoteStyle

/-- The name of a style. -/
def name : QuoteStyle → Text
  | infer  => "infer".toList
  | single => "single".toList
  | double => "double".toList

/-- The style with a name. -/
def ofName? (name : Text) : Option QuoteStyle :=
  [infer, single, double].find? fun style => style.name = name

/-- The kind of literal to convert to, given the one that the document suggests. -/
def resolve (style : QuoteStyle) (suggested : Kind) : Kind :=
  match style with
  | infer  => suggested
  | single => .normal .single
  | double => .normal .double

end QuoteStyle

/-- The settings of a conversion. -/
structure Config where
  style      : QuoteStyle := .infer
  /-- The extensions of the files to convert, without the dot. -/
  extensions : List Text :=
    ["js", "jsx", "mjs", "cjs", "ts", "tsx", "mts", "cts"].map String.toList
deriving DecidableEq, Repr

namespace Config

/-- What is wrong with a configuration. -/
inductive Fault where
  | noExtensions
  | badExtension (extension : Text)
deriving DecidableEq, Repr

/-- The fault in words. -/
def Fault.message : Fault → Text
  | noExtensions   => "extensions must not be empty".toList
  | badExtension e =>
    "extensions must be non-empty and have no leading dot, got ".toList ++ Text.quoted e

/-- Whether an extension is empty or starts with a dot. -/
def isBadExtension (extension : Text) : Bool :=
  extension.isEmpty || extension.head? == some '.'

/-- The first fault of a configuration. -/
def fault? (config : Config) : Option Fault :=
  if config.extensions.isEmpty then
    some .noExtensions
  else
    (config.extensions.find? isBadExtension).map .badExtension

/-- Whether files with this path are converted. -/
def supports (config : Config) (path : Text) : Bool :=
  (Path.extension? path).any fun e => config.extensions.contains e

/-! ### Reading a configuration -/

/-- A value in a configuration, as far as the settings tell values apart. -/
inductive Setting where
  | text (value : Text)
  | list (values : List Setting)
  | table (entries : List (Text × Setting))
  /-- A value that stands for nothing, where the notation has one. -/
  | nothing
  | other
deriving Inhabited

/-- The style that a value names: its name, or a table with the name alone beside a vacant value. -/
def Setting.style? (vacant : Setting → Bool) : Setting → Option QuoteStyle
  | text name             => QuoteStyle.ofName? name
  | table [(name, value)] => if vacant value then QuoteStyle.ofName? name else none
  | _                     => none

/-- The text that a value is. -/
def Setting.text? : Setting → Option Text
  | text value => some value
  | _          => none

/-- The texts that a value lists. -/
def Setting.texts? : Setting → Option (List Text)
  | list values => values.mapM Setting.text?
  | _           => none

/-- Whether a value stands for nothing. -/
def Setting.isNothing : Setting → Bool
  | nothing => true
  | _       => false

/-- Whether a value is a list or a table with nothing in it. -/
def Setting.isEmpty : Setting → Bool
  | list values   => values.isEmpty
  | table entries => entries.isEmpty
  | _             => false

/-- The configuration that a value describes. Settings that are not there keep their defaults, and
entries with other names do not count. Which values are vacant depends on the notation. -/
def ofSetting? (vacant : Setting → Bool) : Setting → Option Config
  | .table entries => do
    let base : Config := {}
    let style ← match entries.lookup "default_quote".toList with
      | some value => value.style? vacant
      | none       => some base.style
    let extensions ← match entries.lookup "extensions".toList with
      | some value => value.texts?
      | none       => some base.extensions
    return { style, extensions }
  | _ => none

end Config

end Requote
