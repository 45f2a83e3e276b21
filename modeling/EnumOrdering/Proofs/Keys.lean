import EnumOrdering.Proofs.LastWins
import Mathlib.Algebra.BigOperators.Group.Finset.Basic

/-!
# How much a set holds

The values of a mapping and the names of a set as finite sets, known by their members.
The sizes that are reported are their cardinalities: names are counted once each, and the
values of every name once each.
-/

namespace EnumOrdering

namespace Mapping

/-- The values that a mapping orders. -/
def values (m : Mapping) : Finset String := m.orders.keys.toFinset

theorem mem_values {m : Mapping} {value : String} :
    value ∈ m.values ↔ ∃ order, m.get? value = some order := by
  rw [values, List.mem_toFinset, Std.ExtTreeMap.mem_keys, get?, ← Option.isSome_iff_exists,
    Std.ExtTreeMap.isSome_getElem?_iff_mem]

theorem card_values (m : Mapping) : m.values.card = m.size := by
  have hn : m.orders.keys.Nodup := by
    rw [← Std.ExtTreeMap.map_fst_toList_eq_keys]
    exact nodup_keys_toList m.orders
  rw [values, List.toFinset_card_of_nodup hn, Std.ExtTreeMap.length_keys, size]

end Mapping

namespace EnumerationSet

/-- The names of a set. -/
def nameSet (s : EnumerationSet) : Finset String := s.names.toFinset

theorem nodup_names (s : EnumerationSet) : s.names.Nodup := nodup_keys_toList s.mappings

theorem mem_nameSet {s : EnumerationSet} {name : String} :
    name ∈ s.nameSet ↔ ∃ m, s.get? name = some m := by
  rw [nameSet, List.mem_toFinset, names, toList, Std.ExtTreeMap.map_fst_toList_eq_keys,
    Std.ExtTreeMap.mem_keys, get?, ← Option.isSome_iff_exists,
    Std.ExtTreeMap.isSome_getElem?_iff_mem]

theorem card_nameSet (s : EnumerationSet) : s.nameSet.card = s.size := by
  rw [nameSet, List.toFinset_card_of_nodup s.nodup_names, names, List.length_map, toList,
    Std.ExtTreeMap.length_toList, size]

/-- How many values the mapping under a name has. -/
def valueCount (s : EnumerationSet) (name : String) : Nat :=
  (s.get? name).elim 0 fun m => m.values.card

/-- The values that are reported in total are those of every name, each once. -/
theorem totalValues_eq_sum (s : EnumerationSet) :
    s.totalValues = ∑ name ∈ s.nameSet, s.valueCount name := by
  rw [nameSet, List.sum_toFinset _ s.nodup_names, totalValues, names, List.map_map, List.sum]
  congr 1
  refine List.map_congr_left fun p hp => ?_
  have hg : s.get? p.1 = some p.2 := Std.ExtTreeMap.mem_toList_iff_getElem?_eq_some.mp hp
  rw [Function.comp, valueCount, hg, Option.elim_some, Mapping.card_values]

end EnumerationSet

end EnumOrdering
