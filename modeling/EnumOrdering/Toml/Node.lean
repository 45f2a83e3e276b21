import EnumOrdering.Mismatch
import EnumOrdering.Toml.Number

/-!
# TOML values

A document as a tree. Tables keep their entries in the order in which they are
first named, and remember how they came about, for this decides what may still be
added to them: a table under a header of its own, one that is only on the way to
another header, one on the way to a dotted name, or one written out in braces.
-/

namespace EnumOrdering.Toml

/-- How a table came about. -/
inductive Origin
  | header
  | implied
  | dotted
  | inline
deriving Repr, DecidableEq

/-- Whether a table was never written as a table itself. -/
def Origin.isImplicit : Origin → Bool
  | .header => false
  | .implied => true
  | .dotted => true
  | .inline => false

/-- An entry of a table. -/
structure Entry (α : Type) where
  key : Key
  value : α
deriving Repr

/-- A value, with the place where it stands if it stands anywhere. -/
inductive Node
  | text (place : Nat) (s : String)
  | integer (place : Nat) (z : Int64)
  | real (place : Nat) (x : Real)
  | boolean (place : Nat) (b : Bool)
  /-- A date, a time, or both. -/
  | moment (place : Nat)
  | array (place : Nat) (items : List Node)
  | table (place : Option Nat) (origin : Origin) (entries : List (Entry Node))
  /-- The tables under repeated headers of one name. -/
  | tables (elements : List Node)
deriving Repr

/-- The entries of a table. -/
abbrev Entries := List (Entry Node)

namespace Node

/-- Where a value stands. -/
def place? : Node → Option Nat
  | .text place _ => some place
  | .integer place _ => some place
  | .real place _ => some place
  | .boolean place _ => some place
  | .moment place => some place
  | .array place _ => some place
  | .table place _ _ => place
  | .tables [] => none
  | .tables (.table place _ _ :: _) => place
  | .tables (_ :: _) => none

/-- What a value is in a mismatch. -/
def found : Node → Found
  | .text _ s => .text s
  | .integer _ z => .integer z.toInt
  | .real _ x => .real x.shown
  | .boolean _ b => .boolean b
  | .moment _ => .map
  | .array .. => .sequence
  | .table .. => .map
  | .tables .. => .sequence

/-- The name of a kind of value. -/
def kind : Node → String
  | .text .. => "string"
  | .integer .. => "integer"
  | .real .. => "float"
  | .boolean .. => "boolean"
  | .moment .. => "datetime"
  | .array .. => "array"
  | .table _ .inline _ => "inline table"
  | .table .. => "table"
  | .tables .. => "array of tables"

end Node

namespace Entries

/-- The value under a name. -/
def get? (name : String) : Entries → Option Node
  | [] => none
  | entry :: rest => if entry.key.name = name then some entry.value else get? name rest

/-- The entries without those under a name. -/
def erase (name : String) (entries : Entries) : Entries :=
  entries.filter fun entry => entry.key.name ≠ name

/-- The entries with another value under a name, which comes last where it was
not there. -/
def put (key : Key) (value : Node) : Entries → Entries
  | [] => [⟨key, value⟩]
  | entry :: rest =>
    if entry.key.name = key.name then ⟨entry.key, value⟩ :: rest else entry :: put key value rest

/-- Changes the entries of the table at the end of a path; tables on the way are
made where there are none, of the kind of `made`. The change is told how the
table came about. Nothing comes of it where the way leads through something else
than tables, where `mayEnter` refuses a table on the way, or where the change
itself refuses. -/
def alter (made : Origin) (mayEnter : Origin → Bool)
    (change : Origin → Entries → Option Entries) :
    List Key → Origin → Entries → Option Entries
  | [], origin, entries => change origin entries
  | key :: path, _, entries =>
    match get? key.name entries with
    | none =>
      (alter made mayEnter change path made []).map fun inner =>
        put key (.table none made inner) entries
    | some (.table place origin inner) =>
      if origin ≠ .inline && mayEnter origin then
        (alter made mayEnter change path origin inner).map fun inner' =>
          put key (.table place origin inner') entries
      else none
    | some (.tables elements) =>
      match elements.getLast? with
      | some (.table place origin inner) =>
        (alter made mayEnter change path origin inner).map fun inner' =>
          put key (.tables (elements.dropLast ++ [.table place origin inner'])) entries
      | _ => none
    | some _ => none

/-- Adds a value under a new name. -/
def addNew (key : Key) (value : Node) (entries : Entries) : Option Entries :=
  match get? key.name entries with
  | none => some (entries ++ [⟨key, value⟩])
  | some _ => none

/-- Adds a value under a path of names to a table that came about as `own`. A
path of more than one name may only lead to a table that was named in this way
alone. -/
def addPath (own : Origin) (path : KeyPath) (value : Node) (entries : Entries) : Option Entries :=
  alter .dotted Origin.isImplicit
    (fun origin inner =>
      if path.front ≠ [] && origin ≠ .dotted then none else addNew path.last value inner)
    path.front own entries

/-- The entries of the table that a path leads to, through the last one of every
list of tables. -/
def follow? : List Key → Entries → Option Entries
  | [], entries => some entries
  | key :: path, entries =>
    match get? key.name entries with
    | some (.table _ _ inner) => follow? path inner
    | some (.tables elements) =>
      match elements.getLast? with
      | some (.table _ _ inner) => follow? path inner
      | _ => none
    | _ => none

/-- Takes the table under a header out of a document: its entries so far, which
it has only if no table was written there before, and the document without it. -/
def openTable (path : KeyPath) (entries : Entries) : Option (Entries × Entries) :=
  (alter .implied (fun _ => true) (fun _ inner => some (erase path.last.name inner)) path.front
    .header entries).bind fun without =>
      match (follow? path.front entries).bind (get? path.last.name) with
      | none => some ([], without)
      | some (.table _ .implied inner) => some (inner, without)
      | some _ => none

/-- Puts the table under a header into a document. -/
def closeTable (path : KeyPath) (table : Node) (entries : Entries) : Option Entries :=
  alter .implied (fun _ => true) (fun _ inner => addNew path.last table inner) path.front .header
    entries

/-- Makes room for one more table under a repeated header. -/
def openElement (path : KeyPath) (entries : Entries) : Option Entries :=
  alter .implied (fun _ => true)
    (fun _ inner =>
      match get? path.last.name inner with
      | none => some (inner ++ [⟨path.last, .tables []⟩])
      | some (.tables _) => some inner
      | some _ => none)
    path.front .header entries

/-- Puts one more table under a repeated header into a document. -/
def closeElement (path : KeyPath) (table : Node) (entries : Entries) : Option Entries :=
  alter .implied (fun _ => true)
    (fun _ inner =>
      match get? path.last.name inner with
      | some (.tables elements) => some (put path.last (.tables (elements ++ [table])) inner)
      | _ => none)
    path.front .header entries

end Entries

end EnumOrdering.Toml
