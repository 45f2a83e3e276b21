/-!
# What stands for a missing order

Two things can keep a document from having an order: it has no value, or its
value is none of the enumeration's. A policy gives each case an order of its own,
and the absent mode says whether that order is passed on or its absence is.
-/

namespace EnumOrdering

/-- The orders that stand in where there is none. -/
structure Policy where
  /-- The document has no value. -/
  noValue : Int64
  /-- The value is not in the enumeration. -/
  noOrder : Int64
deriving Repr, DecidableEq

/-- Whether an order that stands in is passed on as an order, or reported as
missing. -/
inductive AbsentMode
  | substitute
  | report
deriving Repr, DecidableEq, Inhabited

end EnumOrdering
