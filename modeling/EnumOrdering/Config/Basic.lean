import EnumOrdering.Config.Decode
import EnumOrdering.Ranker

/-!
# Configurations

What is chosen when a ranker is started, read from a TOML document. The source
and the two orders that stand in must be given; the rest has defaults. Names that
mean nothing here are passed over.
-/

namespace EnumOrdering

/-- A configuration. -/
structure Config where
  source : Source
  policy : Policy
  reloadMark : String
  absentMode : AbsentMode
  /-- Where the server listens. -/
  bind : Net.SocketAddress
deriving Repr, DecidableEq

namespace Config

open Files (FileError)
open Decode (Decoded)

/-- What has been read of a configuration. -/
structure Draft where
  source : Option Source
  noValue : Option Int64
  noOrder : Option Int64
  reloadMark : Option String
  absentMode : Option AbsentMode
  bind : Option Net.SocketAddress

/-- Takes an entry into the draft. -/
def onEntry (d : Draft) (entry : Toml.Entry Toml.Node) : Decoded Draft :=
  let node := entry.value
  Decode.entryPlaced entry <|
    match entry.key.name with
    | "source" => (Decode.source node).map fun s => { d with source := some s }
    | "default_no_value" => (Decode.order node).map fun o => { d with noValue := some o }
    | "default_no_order" => (Decode.order node).map fun o => { d with noOrder := some o }
    | "reload_prefix" => (Decode.text "a string" node).map fun s => { d with reloadMark := some s }
    | "absent_mode" => (Decode.absentMode node).map fun m => { d with absentMode := some m }
    | "server" => (Decode.server node).map fun a => { d with bind := some a }
    | _ => .ok d

/-- The configuration of a draft. -/
def ofDraft (d : Draft) : Decoded Config :=
  (Decode.required "source" d.source).bind fun source =>
    (Decode.required "default_no_value" d.noValue).bind fun noValue =>
      (Decode.required "default_no_order" d.noOrder).map fun noOrder =>
        { source
          policy := ⟨noValue, noOrder⟩
          reloadMark := d.reloadMark.getD Request.defaultMark
          absentMode := d.absentMode.getD .substitute
          bind := d.bind.getD Decode.defaultBind }

/-- The configuration of the entries of a document. -/
def ofEntries (entries : Toml.Entries) : Decoded Config :=
  (entries.foldlM onEntry ⟨none, none, none, none, none, none⟩).bind ofDraft

/-- Why a configuration is of no use, if it is not. Whether its source can be
loaded is found out later. -/
def invalid? (c : Config) : Option Invalid :=
  match c.source with
  | .directory path => if path.isEmpty then some .directoryPath else none
  | .file path name =>
    if path.isEmpty then some .filePath else if name.isEmpty then some .fileName else none
  | .url address timeout =>
    if !("http://".isPrefixOf address || "https://".isPrefixOf address) then some .urlScheme
    else if timeout = 0 then some .urlTimeout
    else none

/-- The configuration of a text. What is missing in the document as a whole is
missing at its beginning. -/
def parse (text : String) : Except Refusal Config :=
  match Toml.parse text with
  | .error f => .error (.syntaxFault (.before text f.left))
  | .ok entries =>
    match ofEntries entries with
    | .error f =>
      .error (.shape (some (.before text (f.place.getD text.length))) f.problem)
    | .ok config =>
      match config.invalid? with
      | some why => .error (.invalid why)
      | none => .ok config

/-- The configuration of a file. -/
def ofFile (path : Bytes) (content : Except FileError Bytes) : Except Refusal Config :=
  match content with
  | .error e => .error (.unreadable path e.message)
  | .ok bytes =>
    match bytes.text? with
    | none => .error (.unreadable path "stream did not contain valid UTF-8")
    | some text => parse text

/-- The events of reading a configuration from a file. -/
def events (path : Bytes) (result : Except Refusal Config) : List Event :=
  match result with
  | .error _ => []
  | .ok _ => [.configured path]

/-- The ranker of a configuration. -/
def ranker (c : Config) : Ranker := ⟨c.source.describe, c.policy, c.absentMode, c.reloadMark⟩

end Config

end EnumOrdering
