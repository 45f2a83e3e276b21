import EnumOrdering.Json.Compact
import EnumOrdering.Mapping

/-!
# Published enumerations

Mappings and sets of them as JSON values: a mapping as the array of its entries,
each an object of a value and an order, and a set as the object of its mappings
by name. These are definitions and documents themselves, so what is published
can be loaded.
-/

namespace EnumOrdering

/-- An order as a JSON value. -/
def orderValue (order : Int64) : Json.Value := .number (.integer order.toInt)

/-- An entry as a JSON value. -/
def Entry.json (e : Entry) : Json.Value :=
  .object [("value", .text e.value), ("order", orderValue e.order)]

/-- A mapping as a JSON value. -/
def Mapping.json (m : Mapping) : Json.Value := .array (m.entries.map Entry.json)

/-- A set of mappings as a JSON value. -/
def EnumerationSet.json (s : EnumerationSet) : Json.Value :=
  .object (s.toList.map fun p => (p.1, p.2.json))

end EnumOrdering
