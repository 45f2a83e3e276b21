import Std.Data.ExtTreeMap

/-!
# Mappings and enumeration sets

An enumeration gives each of its values an order: a `Mapping` is a finite map
from texts to 64-bit integers. An `EnumerationSet` holds mappings by name. Both
are built by insertion, where the last order of a value and the last mapping of
a name count, and both are equal as soon as their look-ups agree.
-/

namespace EnumOrdering

/-- A value with its order. -/
structure Entry where
  value : String
  order : Int64
deriving Repr, DecidableEq

/-- Entries are listed by order, and by value where the orders are equal. -/
def Entry.le (a b : Entry) : Bool :=
  a.order < b.order || (a.order == b.order && decide (a.value ≤ b.value))

/-- One enumeration: a finite map from values to orders. -/
structure Mapping where
  orders : Std.ExtTreeMap String Int64
deriving DecidableEq

namespace Mapping

/-- The mapping without values. -/
def empty : Mapping := ⟨∅⟩

instance : Inhabited Mapping := ⟨empty⟩

/-- Gives a value an order, in place of any it had. -/
def insert (m : Mapping) (value : String) (order : Int64) : Mapping :=
  ⟨m.orders.insert value order⟩

/-- The mapping of a list of pairs, of which the last with a value counts. -/
def ofPairs (pairs : List (String × Int64)) : Mapping :=
  pairs.foldl (fun m p => m.insert p.1 p.2) empty

/-- The order of a value. -/
def get? (m : Mapping) (value : String) : Option Int64 := m.orders[value]?

/-- The number of values. -/
def size (m : Mapping) : Nat := m.orders.size

def isEmpty (m : Mapping) : Bool := m.orders.isEmpty

/-- All values with their orders, listed by order and then by value. -/
def entries (m : Mapping) : List Entry :=
  (m.orders.toList.map fun p => ⟨p.1, p.2⟩).mergeSort Entry.le

end Mapping

/-- Enumerations by name. -/
structure EnumerationSet where
  mappings : Std.ExtTreeMap String Mapping
deriving DecidableEq

namespace EnumerationSet

/-- The set without enumerations. -/
def empty : EnumerationSet := ⟨∅⟩

instance : Inhabited EnumerationSet := ⟨empty⟩

/-- Puts a mapping under a name, in place of any that was there. -/
def insert (s : EnumerationSet) (name : String) (m : Mapping) : EnumerationSet :=
  ⟨s.mappings.insert name m⟩

/-- The set of a list of named mappings, of which the last under a name counts. -/
def ofList (named : List (String × Mapping)) : EnumerationSet :=
  named.foldl (fun s p => s.insert p.1 p.2) empty

/-- The mapping under a name. -/
def get? (s : EnumerationSet) (name : String) : Option Mapping := s.mappings[name]?

def contains (s : EnumerationSet) (name : String) : Bool := s.mappings.contains name

/-- The number of enumerations. -/
def size (s : EnumerationSet) : Nat := s.mappings.size

def isEmpty (s : EnumerationSet) : Bool := s.mappings.isEmpty

/-- The names with their mappings, in the order of the names. -/
def toList (s : EnumerationSet) : List (String × Mapping) := s.mappings.toList

/-- The names in their order. -/
def names (s : EnumerationSet) : List String := s.toList.map Prod.fst

/-- The number of values in all enumerations together. -/
def totalValues (s : EnumerationSet) : Nat := (s.toList.map fun p => p.2.size).foldr (· + ·) 0

end EnumerationSet

end EnumOrdering
