import ProductLine.Expression.Parser
import ProductLine.Graph.Checker
import ProductLine.Graph.Cycle

/-!
# Validation of dependency graphs

What may be wrong with a graph before anything is computed: ids that several nodes share, ids that cannot
stand in an expression, a cycle, presence conditions that are no formulas or name unknown features, and
expressions that are none or name nodes that are no children.
-/

namespace ProductLine

/-- Something wrong with a graph. -/
inductive Issue where
  | sharedId (id : String) (count : Nat)
  | badId (id : String)
  | cycle (parent child : String)
  | atNode (id : String) (error : Error)
  | unknownFeatures (id : String) (names : List String)
  | unknownNames (id : String) (names : List String)
deriving DecidableEq

/-- The wording of an issue. -/
def Issue.message : Issue → String
  | sharedId id count => "Node id '" ++ id ++ "' is used by " ++ toString count ++ " distinct nodes."
  | badId id => "Node id '" ++ id ++ "' is not a valid expression variable."
  | cycle parent child => "Cycle detected involving node '" ++ parent ++ "' -> '" ++ child ++ "'."
  | atNode id error => "Node '" ++ id ++ "': " ++ error.message
  | unknownFeatures id names =>
    "Node '" ++ id ++ "': presence condition references unknown features " ++ Text.quotedList names ++ "."
  | unknownNames id names =>
    "Node '" ++ id ++ "': expression references non-children " ++ Text.quotedList names ++ "."

/-- Whether an error is about the model itself, so that it is an issue and does not end the validation. -/
def Error.isIssue : Error → Bool
  | .malformed _ _ => true
  | .unbound _ _ => true
  | .cycle _ => true
  | .noExpression _ => true
  | _ => false

namespace Graph

/-- Whether an id can stand in an expression. -/
def isVariable (id : String) : Bool := Text.isName id.toList && !Expression.isKeyword id.toList

/-- The ids that several of the nodes share, in ascending order. -/
def sharedIds (g : Graph) (nodes : List (Fin g.size)) : List Issue :=
  let ids := nodes.map g.id
  ((Formula.distinct [] ids).mergeSort.filter (1 < ids.count ·)).map fun id => .sharedId id (ids.count id)

/-- The nodes whose id cannot stand in an expression. -/
def badIds (g : Graph) (nodes : List (Fin g.size)) : List Issue :=
  ((nodes.map g.id).filter (!isVariable ·)).map .badId

/-- The first cycle found below a node. -/
def cycleIssue (g : Graph) (root : Fin g.size) : List Issue :=
  match g.closingEdge? root with
  | some (parent, child) => [.cycle parent child]
  | none => []

/-- The texts that are not among the known ones, in ascending order. -/
def unknown (known names : List String) : List String := (names.filter (!known.contains ·)).mergeSort

/-- What is wrong with the presence condition of a node, given the known features and the features a
diagram depends on. -/
def presenceIssue (support : Diagram → List String) (features : List String) {α : Type} (node : Node α) :
    List Issue :=
  let issue (names : List String) : List Issue :=
    let names := unknown features names
    if names = [] then [] else [.unknownFeatures node.id names]
  match node.presence with
  | .diagram handle => issue (support handle.diagram)
  | .formula text =>
    match Formula.normalize text with
    | .error e => [.atNode node.id e]
    | .ok normal => issue (Formula.features normal)

/-- The free names of the expression that a checker computes for a model. -/
def modelNames (checker : Checker) (model : Model) : Except Error (List String) :=
  match checker model with
  | .error e => .error e
  | .ok expression => Expression.freeVariables expression

/-- What is wrong with the expression of a node. -/
def expressionIssue (checker : Checker) (g : Graph) (i : Fin g.size) : Except Error (List Issue) :=
  match modelNames checker (g.node i).model with
  | .error e => if e.isIssue then .ok [.atNode (g.id i) e] else .error e
  | .ok names =>
    let children := (g.children i).map g.id
    let names := names.filter (!children.contains ·)
    .ok (if names = [] then [] else [.unknownNames (g.id i) names])

/-- What is wrong with the graph below a node. The features and the expressions are looked at only if known
features or a checker are given. -/
def validate (g : Graph) (support : Diagram → List String) (root : Fin g.size) (features : Option (List String))
    (checker : Option Checker) : Except Error (List Issue) :=
  let nodes := g.reachable root
  let structural := g.sharedIds nodes ++ g.badIds nodes ++ g.cycleIssue root
  let presences := match features with
    | some features => nodes.flatMap fun i => presenceIssue support features (g.node i)
    | none => []
  match checker with
  | some checker => (nodes.mapM (g.expressionIssue checker)).map fun issues =>
    structural ++ presences ++ issues.flatten
  | none => .ok (structural ++ presences)

end Graph

end ProductLine
