import EnumOrdering.Failure
import EnumOrdering.Json.Compact
import EnumOrdering.Json.Skip
import EnumOrdering.Json.Typed
import EnumOrdering.Mapping

/-!
# Definitions

A definition is a JSON array of records. A record gives a value an order: an
object with the members `value` and `order` among any others, or an array of the
two. The text is read as a whole before any value is looked at. Then the values
become texts, and the first one that is no text, number or boolean is refused.

A document is a JSON object of definitions by name. Of definitions under one
name the last counts, as a whole; those before it only need their shape.
-/

namespace EnumOrdering

open Json (Value Reader Step Fault)

/-- A record of a definition: a value as it is written, and its order. -/
structure Record where
  value : Value
  order : Int64

namespace Record

/-- What has been read of a record that is an object. -/
structure Draft where
  value : Option Value
  order : Option Int64

/-- How the member `name` of a record is read. -/
def onKey (room : Nat) (draft : Draft) (name : String) : Except Mismatch (Reader Draft) :=
  if name = "value" then
    match draft.value with
    | some _ => .error (.duplicateField "value")
    | none => .ok fun input =>
      (Json.readValue room input).map (·.map fun v => { draft with value := some v })
  else if name = "order" then
    match draft.order with
    | some _ => .error (.duplicateField "order")
    | none => .ok fun input =>
      (Json.readInt64 input).map (·.map fun z => { draft with order := some z })
  else .ok fun input => (Json.skipValue input).map (·.map fun _ => draft)

/-- The record of a draft that has both members. -/
def ofDraft : Draft → Except Mismatch Record
  | ⟨none, _⟩ => .error (.missingField "value")
  | ⟨some _, none⟩ => .error (.missingField "order")
  | ⟨some value, some order⟩ => .ok ⟨value, order⟩

/-- Reads the members of a record after the opening brace. -/
def readObject (room : Nat) : Reader Record := fun input =>
  match Json.readMembers Json.readText (onKey room) true ⟨none, none⟩ input with
  | .error f => .error f
  | .ok st =>
    match ofDraft st.value with
    | .error m => .error (.shape m st.rest)
    | .ok record => .ok (st.map fun _ => record)

/-- Reads the two items of a record after the opening bracket. -/
def readPair (room : Nat) : Reader Record := fun input =>
  let expected := "struct DefinitionEntry with 2 elements"
  match Json.readItem (Json.readValue room) 0 expected input with
  | .error f => .error f
  | .ok value =>
    match Json.readItem Json.readInt64 1 expected value.rest with
    | .error f => .error f
    | .ok order =>
      match Json.readListEnd order.rest with
      | .error f => .error f
      | .ok st => .ok ⟨⟨value.value, order.value⟩, st.rest, by
          have := value.shorter
          have := order.shorter
          have := st.shorter
          omega⟩

/-- Reads a record. -/
def read (room : Nat) : Reader Record :=
  Json.readFrom fun b rest =>
    if b = Json.Sign.openBracket then Json.enter room b rest readPair
    else if b = Json.Sign.openBrace then Json.enter room b rest readObject
    else .error (Json.unexpected "struct DefinitionEntry" b rest)

/-- The text that a scalar value stands for. -/
def key? : Value → Option String
  | .text s => some s
  | .number x => some x.text
  | .boolean true => some "true"
  | .boolean false => some "false"
  | .null => none
  | .array _ => none
  | .object _ => none

end Record

/-- The records of a definition. -/
abbrev Definition := List Record

namespace Definition

/-- Reads a definition within a text. -/
def read (room : Nat) : Reader Definition := Json.readSequence room Record.read

/-- The records of a definition text, or why it is none. -/
def decode (bytes : Bytes) : Except Fault Definition :=
  Json.readWholeText (read Json.maxDepth) bytes

/-- Why the value of the record at `index` is refused. -/
def refusal (index : Nat) (v : Value) : String :=
  s!"entry {Decimal.natText index}: value must be a string, number or boolean, got {v.compact}"

/-- The pairs of text and order of records, the first of which stands at
`index`, or why the first bad one is refused. -/
def pairs : (index : Nat) → List Record → Except String (List (String × Int64))
  | _, [] => .ok []
  | index, record :: rest =>
    match record.value |> Record.key? with
    | none => .error (refusal index record.value)
    | some key =>
      match pairs (index + 1) rest with
      | .error reason => .error reason
      | .ok others => .ok ((key, record.order) :: others)

/-- The mapping of a definition. -/
def mapping (origin : String) (definition : Definition) : Except Failure Mapping :=
  match pairs 0 definition with
  | .error reason => .error (.malformedDefinition origin reason)
  | .ok ps => .ok (Mapping.ofPairs ps)

end Definition

/-- The mapping that a definition text gives. -/
def Mapping.parse (origin : String) (bytes : Bytes) : Except Failure Mapping :=
  match Definition.decode bytes with
  | .error f => .error (.malformedDefinition origin (f.message bytes))
  | .ok definition => definition.mapping origin

/-- Definitions by name. -/
abbrev Document := Std.ExtTreeMap String Definition

namespace Document

/-- Reads a document. -/
def read (room : Nat) : Reader Document :=
  Json.readMap room (fun inner document name => .ok fun input =>
    (Definition.read inner input).map (·.map fun definition => document.insert name definition)) ∅

/-- The definitions of a document text, or why it is none. -/
def decode (bytes : Bytes) : Except Fault Document :=
  Json.readWholeText (read Json.maxDepth) bytes

/-- The mappings of named definitions, each with its name in its origin. -/
def mappings (origin : String) :
    List (String × Definition) → Except Failure (List (String × Mapping))
  | [] => .ok []
  | (name, definition) :: rest =>
    match definition.mapping (origin ++ "#" ++ name) with
    | .error e => .error e
    | .ok m =>
      match mappings origin rest with
      | .error e => .error e
      | .ok others => .ok ((name, m) :: others)

/-- The enumerations of a document. -/
def enumerations (origin : String) (document : Document) : Except Failure EnumerationSet :=
  (mappings origin document.toList).map EnumerationSet.ofList

end Document

/-- The enumerations that a document text gives. -/
def EnumerationSet.parse (origin : String) (bytes : Bytes) : Except Failure EnumerationSet :=
  match Document.decode bytes with
  | .error f => .error (.malformedDefinition origin (f.message bytes))
  | .ok document => document.enumerations origin

end EnumOrdering
