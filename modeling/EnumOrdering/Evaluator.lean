import EnumOrdering.CacheKey
import EnumOrdering.FieldColumn
import EnumOrdering.Mapping
import EnumOrdering.Policy

/-!
# Evaluators

An evaluator gives field values their orders. It is bound to one mapping, or to
none when it only stands for a reload; then every value has the order that stands
for no value, and none counts as missing. Two evaluators are equal when their
cache keys are.
-/

namespace EnumOrdering

/-- What an evaluator reads. -/
inductive Evaluator.Mode
  /-- Looks values up in a mapping. -/
  | lookup (m : Mapping)
  /-- Reads nothing. -/
  | noop
deriving DecidableEq

/-- An evaluator of field values. -/
structure Evaluator where
  key : CacheKey
  mode : Evaluator.Mode
  policy : Policy
  absentMode : AbsentMode

/-- The order of a value: its own, or one that stands in for it. -/
inductive Resolution
  | own (order : Int64)
  | standIn (order : Int64)
deriving Repr, DecidableEq

namespace Evaluator

instance : BEq Evaluator := ⟨fun a b => a.key == b.key⟩

instance : Hashable Evaluator := ⟨fun e => hash e.key⟩

/-- The description of an evaluator is that of its key. -/
def describe (e : Evaluator) : String := e.key.describe

def isNoop (e : Evaluator) : Bool :=
  match e.mode with
  | .lookup _ => false
  | .noop => true

/-- The order of a value, with whether it is the value's own. -/
def resolve (e : Evaluator) (value : Option String) : Resolution :=
  match e.mode with
  | .noop => .own e.policy.noValue
  | .lookup m =>
    match value with
    | none => .standIn e.policy.noValue
    | some text =>
      match m.get? text with
      | some order => .own order
      | none => .standIn e.policy.noOrder

/-- The order of a value, its own or not. -/
def valueFor (e : Evaluator) (value : Option String) : Int64 :=
  match e.resolve value with
  | .own order => order
  | .standIn order => order

/-- The order of a value, or none where one that stands in is to be reported as
missing. -/
def orderFor (e : Evaluator) (value : Option String) : Option Int64 :=
  match e.resolve value, e.absentMode with
  | .own order, _ => some order
  | .standIn order, .substitute => some order
  | .standIn _, .report => none

/-- The order of a document. The bytes of its field are read as a text, with
what is ill-formed replaced. -/
def docValue (e : Evaluator) (source : FieldSource) (doc : DocId) : Int64 :=
  if e.isNoop then e.policy.noValue
  else
    match source doc with
    | some bytes => e.valueFor (some (Bytes.display bytes))
    | none => e.valueFor none

/-- Whether a document counts as having an order. -/
def hasOrder (e : Evaluator) (source : FieldSource) (doc : DocId) : Bool :=
  if e.isNoop then true
  else
    match source doc with
    | some bytes => (e.orderFor (some (Bytes.display bytes))).isSome
    | none => (e.orderFor none).isSome

/-- The orders of documents, one for each in turn. -/
def scoreAll (e : Evaluator) (source : FieldSource) (docs : List DocId) : List Int64 :=
  docs.map (e.docValue source)

end Evaluator

end EnumOrdering
