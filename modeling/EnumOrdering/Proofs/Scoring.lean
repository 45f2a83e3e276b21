import EnumOrdering.Proofs.FieldColumn
import EnumOrdering.Scoring

/-!
# The orders of a column

An evaluator looks at a document only through the text that its bytes show. For a
column that was made of texts this is the text itself, so the scores of a column are
the orders of its values, one for each.
-/

namespace EnumOrdering.Evaluator

variable {e : Evaluator}

/-- An order that is not missing is the one that is given in any case. -/
theorem valueFor_of_orderFor {value : Option String} {order : Int64}
    (h : e.orderFor value = some order) : e.valueFor value = order := by
  rw [orderFor] at h
  rw [valueFor]
  cases hr : e.resolve value with
  | own o => rw [hr] at h; exact Option.some.inj h
  | standIn o =>
      rw [hr] at h
      cases hm : e.absentMode with
      | substitute => rw [hm] at h; exact Option.some.inj h
      | report => rw [hm] at h; cases h

/-- An order is missing where absence is reported and the value is none of the
enumeration's. -/
theorem orderFor_eq_none_iff {value : Option String} :
    e.orderFor value = none ↔
      e.absentMode = .report ∧ ∃ m, e.mode = .lookup m ∧ value.bind m.get? = none := by
  rw [orderFor, resolve]
  cases hm : e.mode with
  | noop => simp
  | lookup m =>
      cases value with
      | none => cases e.absentMode <;> simp
      | some text => cases hg : m.get? text <;> cases e.absentMode <;> simp [hg]

theorem docValue_eq (source : FieldSource) (doc : DocId) :
    e.docValue source doc = e.valueFor ((source doc).map Bytes.display) := by
  rw [docValue, isNoop]
  cases hm : e.mode with
  | noop => simp [valueFor, resolve, hm]
  | lookup m => cases source doc <;> rfl

theorem hasOrder_eq (source : FieldSource) (doc : DocId) :
    e.hasOrder source doc = (e.orderFor ((source doc).map Bytes.display)).isSome := by
  rw [hasOrder, isNoop]
  cases hm : e.mode with
  | noop => simp [orderFor, resolve, hm]
  | lookup m => cases source doc <;> rfl

/-- The scores of a column are the orders of its values. -/
theorem scoreColumn_ofList {values : List (Option String)} (h : values.length ≤ UInt32.size) :
    e.scoreColumn (FieldColumn.ofList values) = values.map e.orderFor := by
  simp only [scoreColumn, hasOrder_eq, docValue_eq]
  rw [FieldColumn.map_docs_ofList h fun bytes =>
    if (e.orderFor (bytes.map Bytes.display)).isSome then
      some (e.valueFor (bytes.map Bytes.display)) else none]
  refine List.map_congr_left fun value _ => ?_
  have hv : (value.map Bytes.ofText).map Bytes.display = value := by
    cases value with
    | none => rfl
    | some text => exact congrArg some (Bytes.display_ofText text)
  rw [hv]
  cases ho : e.orderFor value with
  | none => rfl
  | some order => rw [valueFor_of_orderFor ho]; rfl

theorem score_eq {values : List (Option String)} (h : values.length ≤ UInt32.size) :
    e.score values = ⟨e.describe, e.key.generation, values.map e.orderFor⟩ := by
  rw [score, scoreColumn_ofList h]

end EnumOrdering.Evaluator
