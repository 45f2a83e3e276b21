import EnumOrdering.Text.Utf8

/-!
# Field columns

The values of one field of a collection of documents. Documents are numbered
from zero in the order in which they are added, with numbers of 32 bits; when
those are used up, no more documents are taken.
-/

namespace EnumOrdering

/-- The number of a document. -/
abbrev DocId := UInt32

/-- Where the bytes of a document's field come from; a document may have none. -/
abbrev FieldSource := DocId → Option Bytes

/-- The number of the document after `size` others, while there are numbers. -/
def nextDocId? (size : Nat) : Option DocId :=
  if size < UInt32.size then some (UInt32.ofNat size) else none

/-- A column of field values in memory. -/
structure FieldColumn where
  values : Array (Option Bytes)
deriving Repr, DecidableEq

namespace FieldColumn

/-- The column without documents. -/
def empty : FieldColumn := ⟨#[]⟩

/-- The number of documents. -/
def size (c : FieldColumn) : Nat := c.values.size

def isEmpty (c : FieldColumn) : Bool := c.values.isEmpty

/-- Adds a document and gives its number, while there are numbers. -/
def push? (c : FieldColumn) (value : Option String) : Option (DocId × FieldColumn) :=
  (nextDocId? c.size).map fun doc => (doc, ⟨c.values.push (value.map Bytes.ofText)⟩)

/-- Adds documents one by one for as long as there are numbers. -/
def pushAll : FieldColumn → List (Option String) → FieldColumn
  | c, [] => c
  | c, value :: rest =>
    match c.push? value with
    | none => c
    | some (_, c') => c'.pushAll rest

/-- The column of a list of values. -/
def ofList (values : List (Option String)) : FieldColumn := empty.pushAll values

/-- The numbers of all documents. -/
def docs (c : FieldColumn) : List DocId := (List.range c.size).filterMap nextDocId?

/-- The bytes of a document's field. -/
def bytes? (c : FieldColumn) (doc : DocId) : Option Bytes := (c.values[doc.toNat]?).join

end FieldColumn

end EnumOrdering
