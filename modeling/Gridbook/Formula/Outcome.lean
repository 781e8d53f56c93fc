/-!
# Outcomes of formulas

A formula yields a number, or a fault when it is no known aggregate or nothing is there to
evaluate it.  A fault is a value like any other: it is kept in the cell and shown there.
-/

namespace Gridbook.Formula

inductive Fault where
  | unrecognized
  | noEvaluator
deriving DecidableEq, Repr

def Fault.message : Fault → String
  | .unrecognized => "#ERROR: unrecognized formula"
  | .noEvaluator => "#ERROR: no evaluator"

inductive Outcome where
  | number (value : Float)
  | fault (fault : Fault)
deriving DecidableEq

def Outcome.number? : Outcome → Option Float
  | .number value => some value
  | .fault _ => none

end Gridbook.Formula
