import ProductLine.Error
import ProductLine.Graph.Basic

/-!
# Checkers

A checker computes the reliability expression of a model, over the ids of the children of its node.
-/

namespace ProductLine

/-- What computes the expression of a model, or says why there is none. -/
abbrev Checker := Model → Except Error String

namespace Checker

/-- The checker of models that are an expression or carry one at hand. -/
def plain : Checker
  | .datum (.text expression) => .ok expression
  | .record (.text expression) => .ok expression
  | m => .error (.noExpression m.kind)

/-- The plain checker, except that it breaks down at one model. -/
def breakingAt (fatal : String) : Checker
  | .datum (.text expression) =>
    if expression = fatal then .error (.toolCrashed "tool crashed") else .ok expression
  | m => plain m

end Checker

end ProductLine
