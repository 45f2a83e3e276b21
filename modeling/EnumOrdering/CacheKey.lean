import EnumOrdering.Decimal.Integer

/-!
# Cache keys

The identity of an evaluator: the enumeration it reads and the generation of the
snapshot it was taken from. Its description is a text that a cache of results may
use in its place.
-/

namespace EnumOrdering

/-- The identity of an evaluator. One that reads no enumeration names none. -/
structure CacheKey where
  enumeration : Option String
  generation : UInt64
deriving Repr, DecidableEq, Hashable

namespace CacheKey

/-- The key of an evaluator that reads an enumeration. -/
def field (name : String) (generation : UInt64) : CacheKey := ⟨some name, generation⟩

/-- The key of an evaluator that only stands for a reload. -/
def reload (generation : UInt64) : CacheKey := ⟨none, generation⟩

/-- The description of a key. -/
def describe (key : CacheKey) : String :=
  let generation := Decimal.natText key.generation.toNat
  match key.enumeration with
  | some name => s!"Enumerations evaluated on {name} (generation {generation})"
  | none => s!"Enumeration reload (generation {generation})"

end CacheKey

end EnumOrdering
