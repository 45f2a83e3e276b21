import EnumOrdering.Config.Fault
import EnumOrdering.Net.SocketAddress
import EnumOrdering.Policy
import EnumOrdering.Source.Basic
import EnumOrdering.Toml.Document

/-!
# The parts of a configuration

How the values of a TOML document become texts, integers, sources and addresses.
Tables are read entry by entry in the order in which they are written, so of two
faults the first one counts; what is missing is told after that. A table with a
fixed set of names may also be given as an array of its values, and a date counts
as a table that has none of the names.
-/

namespace EnumOrdering.Config.Decode

open Toml (Node Entries)

/-- What a value is read as, or why it cannot be. -/
abbrev Decoded (α : Type) := Except Fault α

/-- A fault for a value that is not of the expected kind. -/
def unexpected {α : Type} (node : Node) (expected : String) : Decoded α :=
  .error (.ofMismatch (.invalidType node.found expected))

/-- What is read of a value, with its place told where it is not known better. -/
def placed {α : Type} (node : Node) (result : Decoded α) : Decoded α :=
  result.mapError (.atPlace node.place?)

/-- What is read of an entry, where the name tells the place of a value that has
none. -/
def entryPlaced {α : Type} (entry : Toml.Entry Node) (result : Decoded α) : Decoded α :=
  result.mapError fun f => f.atPlace (entry.value.place?.or (some entry.key.place))

/-- A text. -/
def text (expected : String) : Node → Decoded String
  | .text _ s => .ok s
  | node => unexpected node expected

/-- An order. -/
def order : Node → Decoded Int64
  | .integer _ z => .ok z
  | node => unexpected node "i64"

/-- A number of seconds. -/
def seconds : Node → Decoded UInt64
  | .integer _ z =>
    if z < 0 then .error (.ofMismatch (.invalidValue (.integer z.toInt) "u64")) else .ok z.toUInt64
  | node => unexpected node "u64"

/-! ## The absent mode -/

/-- The names of the absent modes. -/
def absentModes : List String := ["substitute", "report"]

/-- The absent mode of a name. -/
def absentModeOf (name : String) : Decoded AbsentMode :=
  if name = "substitute" then .ok .substitute
  else if name = "report" then .ok .report
  else .error ⟨.unknownVariant name absentModes, none⟩

/-- Checks that a value is a table without entries, or an array without items. -/
def emptyTable (node : Node) : Decoded Unit :=
  placed node <|
    match node with
    | .table _ _ [] => .ok ()
    | .table _ _ (_ :: _) => .error ⟨.filledTable, none⟩
    | .array _ [] => .ok ()
    | .array _ (_ :: _) => .error ⟨.filledTable, none⟩
    | .tables _ => .error ⟨.filledArray, none⟩
    | other => .error ⟨.noTable other.kind, none⟩

/-- An absent mode, by its name or by a table with its name over an empty one. -/
def absentMode : Node → Decoded AbsentMode
  | .text _ name => absentModeOf name
  | .table _ _ [] => .error ⟨.noElement, none⟩
  | .table _ _ [entry] =>
    match (absentModeOf entry.key.name).mapError (.atPlace (some entry.key.place)) with
    | .error f => .error f
    | .ok mode => (emptyTable entry.value).map fun _ => mode
  | .table _ _ (_ :: _ :: _) => .error ⟨.manyElements, none⟩
  | _ => .error ⟨.noChoice, none⟩

/-! ## The server -/

/-- The address that the server listens at unless another one is chosen. -/
def defaultBind : Net.SocketAddress := .v4 ⟨#v[127, 0, 0, 1]⟩ 6060

/-- A socket address. -/
def socketAddress (node : Node) : Decoded Net.SocketAddress :=
  match text "socket address" node with
  | .error f => .error f
  | .ok s =>
    match Net.SocketAddress.parse? s with
    | some address => .ok address
    | none => .error ⟨.socketAddress, none⟩

/-- The address among the entries of the server's table. -/
def bindOfEntries : Entries → Decoded Net.SocketAddress
  | [] => .ok defaultBind
  | entry :: rest =>
    if entry.key.name = "bind" then entryPlaced entry (socketAddress entry.value)
    else bindOfEntries rest

/-- The address at the front of the server's array. -/
def bindOfItems : List Node → Decoded Net.SocketAddress
  | [] => .ok defaultBind
  | node :: _ => placed node (socketAddress node)

/-- The address of the server. -/
def server : Node → Decoded Net.SocketAddress
  | .table _ _ entries => bindOfEntries entries
  | .array _ items => bindOfItems items
  | .tables elements => bindOfItems elements
  | .moment _ => bindOfEntries []
  | node => unexpected node "struct ServerConfig"

/-! ## The source -/

/-- The kinds of sources. -/
inductive Kind
  | directory
  | file
  | url
deriving Repr, DecidableEq

/-- The names of the kinds of sources. -/
def kinds : List String := ["directory", "file", "url"]

/-- The kind of a source. -/
def kind (node : Node) : Decoded Kind :=
  placed node <|
    match text "variant identifier" node with
    | .error f => .error f
    | .ok name =>
      if name = "directory" then .ok .directory
      else if name = "file" then .ok .file
      else if name = "url" then .ok .url
      else .error ⟨.unknownVariant name kinds, none⟩

/-- The seconds that a document of the web may take unless others are chosen. -/
def defaultTimeout : UInt64 := 10

/-- What has been read of a source. -/
structure SourceDraft where
  path : Option String
  name : Option String
  url : Option String
  timeout : Option UInt64

/-- A path. -/
def path (node : Node) : Decoded String := text "path string" node

/-- Takes an entry of a source into the draft, if its kind has such an entry. -/
def onSourceEntry (k : Kind) (d : SourceDraft) (entry : Toml.Entry Node) : Decoded SourceDraft :=
  let node := entry.value
  match k, entry.key.name with
  | .directory, "path" => (path node).map fun s => { d with path := some s }
  | .file, "path" => (path node).map fun s => { d with path := some s }
  | .file, "name" => (text "a string" node).map fun s => { d with name := some s }
  | .url, "url" => (text "a string" node).map fun s => { d with url := some s }
  | .url, "timeout_secs" => (seconds node).map fun n => { d with timeout := some n }
  | _, _ => .ok d

/-- A part of a source that it must have. -/
def required {α : Type} (name : String) : Option α → Decoded α
  | some a => .ok a
  | none => .error (.ofMismatch (.missingField name))

/-- The source of a draft. -/
def sourceOfDraft (k : Kind) (d : SourceDraft) : Decoded Source :=
  match k with
  | .directory => (required "path" d.path).map fun p => .directory (Bytes.ofText p)
  | .file =>
    (required "path" d.path).bind fun p =>
      (required "name" d.name).map fun n => .file (Bytes.ofText p) n
  | .url => (required "url" d.url).map fun u => .url u (d.timeout.getD defaultTimeout)

/-- The source of the entries of a table. -/
def sourceOfEntries (entries : Entries) : Decoded Source :=
  match entries.get? "kind" with
  | none => .error (.ofMismatch (.missingField "kind"))
  | some node =>
    (kind node).bind fun k =>
      (entries.foldlM (onSourceEntry k) ⟨none, none, none, none⟩).bind (sourceOfDraft k)

/-- A fault for an array that ends before a part that a source must have. -/
def tooShort {α : Type} (length : Nat) (variant : String) : Decoded α :=
  .error (.ofMismatch (.invalidLength length s!"struct variant SourceSpec::{variant}"))

/-- Checks that nothing follows the parts of a source in an array. -/
def nothingAfter (count : Nat) (rest : List Node) (source : Source) : Decoded Source :=
  if rest.isEmpty then .ok source
  else
    let elements := if count = 1 then "element" else "elements"
    .error (.ofMismatch (.invalidLength (count + rest.length)
      s!"{Decimal.natText count} {elements} in sequence"))

/-- The source of a kind whose parts are the items of an array. -/
def sourceOfParts : Kind → List Node → Decoded Source
  | .directory, [] => tooShort 0 "Directory with 1 element"
  | .directory, p :: rest =>
    (path p).bind fun p => nothingAfter 1 rest (.directory (Bytes.ofText p))
  | .file, [] => tooShort 0 "File with 2 elements"
  | .file, [p] => (path p).bind fun _ => tooShort 1 "File with 2 elements"
  | .file, p :: n :: rest =>
    (path p).bind fun p =>
      (text "a string" n).bind fun n => nothingAfter 2 rest (.file (Bytes.ofText p) n)
  | .url, [] => tooShort 0 "Url with 2 elements"
  | .url, [u] => (text "a string" u).map fun u => .url u defaultTimeout
  | .url, u :: t :: rest =>
    (text "a string" u).bind fun u =>
      (seconds t).bind fun t => nothingAfter 2 rest (.url u t)

/-- The source of the items of an array, of which the first names its kind. -/
def sourceOfItems : List Node → Decoded Source
  | [] => .error (.ofMismatch (.missingField "kind"))
  | node :: parts => (kind node).bind fun k => sourceOfParts k parts

/-- The source. -/
def source : Node → Decoded Source
  | .table _ _ entries => sourceOfEntries entries
  | .array _ items => sourceOfItems items
  | .tables elements => sourceOfItems elements
  | .moment _ => sourceOfEntries []
  | node => unexpected node "internally tagged enum SourceSpec"

end EnumOrdering.Config.Decode
