import Requote.Config

/-!
# TOML values

The values of a TOML document and the rules by which keys and headers build its tables: a key is set
once, a header names a table once, and dotted keys do not reach into tables that were written out.
-/

namespace Requote.Toml

/-- How a table came to be. -/
inductive Origin where
  /-- It has a header of its own. -/
  | header
  /-- It is on the way to a table with a header. -/
  | implied
  /-- It is on the way to a dotted key. -/
  | dotted
  /-- It is written between braces. -/
  | inline
deriving DecidableEq, Repr

/-- A value. Of numbers, truth values and dates only the form matters. -/
inductive Value where
  | text (value : Text)
  | scalar
  | array (values : List Value)
  | table (origin : Origin) (entries : List (Text × Value))
  /-- The tables that share a header between double brackets, each with its entries. -/
  | tables (rows : List (List (Text × Value)))
deriving Inhabited

/-- The entries of a table. -/
abbrev Entries := List (Text × Value)

namespace Entries

/-- Replaces the value of a key. -/
def replace (entries : Entries) (key : Text) (value : Value) : Entries :=
  entries.map fun (k, v) => if k = key then (k, value) else (k, v)

/-- Sets a key of the table that a path of dotted keys leads to. `direct` tells whether keys may be
set in the table where the path starts. -/
def setKey (key : Text) (value : Value) (direct : Bool) : List Text → Entries → Option Entries
  | [],           entries =>
    if direct && (entries.lookup key).isNone then some (entries ++ [(key, value)]) else none
  | step :: path, entries =>
    match entries.lookup step with
    | none => do
      return entries ++ [(step, .table .dotted (← setKey key value true path []))]
    | some (.table .dotted inner) => do
      return entries.replace step (.table .dotted (← setKey key value true path inner))
    | some (.table .implied inner) => do
      return entries.replace step (.table .implied (← setKey key value false path inner))
    | some (.tables rows) => do
      let last ← rows.getLast?
      return entries.replace step (.tables (rows.dropLast ++ [← setKey key value false path last]))
    | _ => none

/-- Changes the table that the path of a header leads to. Tables on the way are made if needed. -/
def modifyAt (change : Entries → Option Entries) : List Text → Entries → Option Entries
  | [],           entries => change entries
  | step :: path, entries =>
    match entries.lookup step with
    | none => do return entries ++ [(step, .table .implied (← modifyAt change path []))]
    | some (.table .inline _) => none
    | some (.table origin inner) => do
      return entries.replace step (.table origin (← modifyAt change path inner))
    | some (.tables rows) => do
      let last ← rows.getLast?
      return entries.replace step (.tables (rows.dropLast ++ [← modifyAt change path last]))
    | _ => none

/-- The entries that the path of a header leads to. -/
def at? (entries : Entries) : List Text → Option Entries
  | []           => some entries
  | step :: path =>
    match entries.lookup step with
    | none                      => some []
    | some (.table .inline _)   => none
    | some (.table _ inner)     => at? inner path
    | some (.tables rows)       => rows.getLast?.bind fun last => at? last path
    | _                         => none

end Entries

/-! ### Documents -/

/-- A document as far as it is read: the finished tables, and the table that keys go to now. -/
structure Builder where
  root    : Entries := []
  /-- The keys on the way to the current table, the last one apart, empty for the root. -/
  parents : List Text := []
  /-- The last key of the current table's header, none for the root. -/
  name    : Option Text := none
  /-- Whether the current table is one of several with the same header. -/
  isRow   : Bool := false
  current : Entries := []

namespace Builder

/-- The root with the current table in its place. -/
def close (b : Builder) : Option Entries :=
  match b.name with
  | none      => some b.current
  | some name =>
    Entries.modifyAt (change b name) b.parents b.root
where
  /-- Adds the current table to the entries around it. -/
  change (b : Builder) (name : Text) (entries : Entries) : Option Entries :=
    match entries.lookup name with
    | none =>
      some (entries ++ [(name, if b.isRow then .tables [b.current] else .table .header b.current)])
    | some (.tables rows) =>
      if b.isRow then some (entries.replace name (.tables (rows ++ [b.current]))) else none
    | _ => none

/-- Starts the table of a header. One that is only implied so far is taken up again. -/
def openTable (b : Builder) (parents : List Text) (name : Text) : Option Builder := do
  let root ← b.close
  match (← Entries.at? root parents).lookup name with
  | none => return { root, parents, name }
  | some (.table .implied inner) =>
    let root ← Entries.modifyAt (fun es => some (es.filter fun e => e.1 ≠ name)) parents root
    return { root, parents, name, current := inner }
  | _ => none

/-- Starts one more table of a header between double brackets. -/
def openRow (b : Builder) (parents : List Text) (name : Text) : Option Builder := do
  let root ← b.close
  match (← Entries.at? root parents).lookup name with
  | none | some (.tables _) => return { root, parents, name, isRow := true }
  | _                       => none

/-- Sets a key of the current table. -/
def setKey (b : Builder) (path : List Text) (key : Text) (value : Value) : Option Builder := do
  return { b with current := ← Entries.setKey key value true path b.current }

end Builder

/-! ### Settings -/

mutual

/-- A value as a setting. -/
def Value.setting : Value → Config.Setting
  | .text value      => .text value
  | .scalar          => .other
  | .array values    => .list (settings values)
  | .table _ entries => .table (entrySettings entries)
  | .tables rows     => .list (rowSettings rows)

/-- Values as settings. -/
def settings : List Value → List Config.Setting
  | []      => []
  | v :: vs => v.setting :: settings vs

/-- Entries as settings. -/
def entrySettings : List (Text × Value) → List (Text × Config.Setting)
  | []                => []
  | (key, v) :: entries => (key, v.setting) :: entrySettings entries

/-- Tables as settings. -/
def rowSettings : List (List (Text × Value)) → List Config.Setting
  | []          => []
  | row :: rows => .table (entrySettings row) :: rowSettings rows

end

end Requote.Toml
