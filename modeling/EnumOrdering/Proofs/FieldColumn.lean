import EnumOrdering.FieldColumn
import EnumOrdering.Proofs.Text.Utf8
import Mathlib.Data.List.Basic

/-!
# Columns read back

A column of no more values than there are document numbers holds all of them, in their
order. So whatever is computed for its documents one after the other is computed for
the values: the column and its numbers are a detour.
-/

namespace EnumOrdering

namespace FieldColumn

theorem nextDocId?_of_lt {size : Nat} (h : size < UInt32.size) :
    nextDocId? size = some (UInt32.ofNat size) := if_pos h

theorem push?_of_lt {c : FieldColumn} (h : c.size < UInt32.size) (value : Option String) :
    c.push? value = some (UInt32.ofNat c.size, ⟨c.values.push (value.map Bytes.ofText)⟩) := by
  rw [push?, nextDocId?_of_lt h, Option.map_some]

/-- As long as the numbers last, every value gets into the column. -/
theorem values_pushAll {c : FieldColumn} {values : List (Option String)}
    (h : c.size + values.length ≤ UInt32.size) :
    (c.pushAll values).values.toList = c.values.toList ++ values.map (·.map Bytes.ofText) := by
  induction values generalizing c with
  | nil => simp [pushAll]
  | cons value values ih =>
      rw [List.length_cons] at h
      have hc : (FieldColumn.mk (c.values.push (value.map Bytes.ofText))).size = c.size + 1 := by
        simp [size]
      rw [pushAll, push?_of_lt (by omega)]
      simp only []
      rw [ih (by omega), Array.toList_push, List.map_cons, List.append_assoc,
        List.singleton_append]

theorem values_ofList {values : List (Option String)} (h : values.length ≤ UInt32.size) :
    (ofList values).values.toList = values.map (·.map Bytes.ofText) := by
  have hs : empty.size + values.length ≤ UInt32.size := by simpa [size, empty] using h
  rw [ofList, values_pushAll hs]
  rfl

theorem size_ofList {values : List (Option String)} (h : values.length ≤ UInt32.size) :
    (ofList values).size = values.length := by
  rw [size, ← Array.length_toList, values_ofList h, List.length_map]

theorem docs_eq {c : FieldColumn} (h : c.size ≤ UInt32.size) :
    c.docs = (List.range c.size).map UInt32.ofNat := by
  rw [docs, ← List.filterMap_eq_map]
  refine List.filterMap_congr fun i hi => ?_
  exact nextDocId?_of_lt (Nat.lt_of_lt_of_le (List.mem_range.mp hi) h)

/-- What is computed for the documents of a column is computed for its values. -/
theorem map_docs {β : Type} {c : FieldColumn} (h : c.size ≤ UInt32.size)
    (f : Option Bytes → β) : c.docs.map (fun doc => f (c.bytes? doc)) = c.values.toList.map f := by
  rw [docs_eq h, List.map_map]
  refine List.ext_getElem (by simp [size]) ?_
  intro i hi _
  have hs : i < c.values.size := by simpa [size] using hi
  have hn : (UInt32.ofNat i).toNat = i := UInt32.toNat_ofNat_of_lt' (Nat.lt_of_lt_of_le hs h)
  simp [bytes?, hn, hs]

/-- What is computed for the documents of a list of values is computed for the values
as texts. -/
theorem map_docs_ofList {β : Type} {values : List (Option String)}
    (h : values.length ≤ UInt32.size) (f : Option Bytes → β) :
    (ofList values).docs.map (fun doc => f ((ofList values).bytes? doc)) =
      values.map fun value => f (value.map Bytes.ofText) := by
  rw [map_docs (by rw [size_ofList h]; exact h), values_ofList h, List.map_map]
  rfl

end FieldColumn

end EnumOrdering
