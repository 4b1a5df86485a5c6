import ProductLine.Binary64.Text
import ProductLine.Text.Quoted

/-!
# Errors

Everything that can go wrong is a cause with what it is about; `Error.message` gives each its wording.
-/

namespace ProductLine

/-- A step on the way to a part of a value. -/
inductive Place where
  | field (name : String)
  | item (index : Nat)
deriving DecidableEq

/-- What is wrong with a part of a value. -/
inductive Fault where
  | missing
  | notText
  | notList
  | notRecord
  | notInteger
  | unreadableInteger
  | fractionalInteger
  | infiniteInteger
  | notTruth
  | unreadableTruth
  | notDiagram
  | refused (reason : String)
deriving DecidableEq

/-- A fault and the place of the faulty part. -/
structure Finding where
  place : List Place
  fault : Fault
deriving DecidableEq

/-- Why a text is no formula, expression or document. -/
inductive Reason where
  | emptyFormula
  | illegalCharacter (c : Char)
  | unbalanced
  | illegalToken (c : Char)
  | unexpected (token : String) (rest : List String)
  | unexpectedEnd
  | unknownOperator (symbol : String)
  | emptyExpression
  | notExpression
  | unsupportedConstruct (name : String)
  | unsupportedConstant (text : String)
  | notYaml
  | notMapping
  | invalid (findings : List Finding)
deriving DecidableEq

/-- What can go wrong. -/
inductive Error where
  | malformed (text : String) (reason : Reason)
  | unbound (name : String) (available : List String)
  | cycle (path : List String)
  | noExpression (kind : String)
  | invalid (findings : List Finding)
  | unreadableSetting (field source : String)
  | divisionByZero (dividend : Binary64)
  | zeroToNegative (exponent : Binary64)
  | negativeToFraction (base exponent : Binary64)
  | beyondRange
  | integerTooLarge
  | foreignDiagram
  | notOperand (kind : String)
  | alreadyCached (id : String)
  | outOfOrder (child parent : String)
  | missingResult (id : String)
  | sessionClosed
  | noBuilder
  | toolCrashed (message : String)
  | nullCharacter
deriving DecidableEq

/-- The wording of a fault that has a reason of its own. -/
def Fault.message? : Fault → Option String
  | refused reason => some ("Value error, " ++ reason)
  | _ => none

/-- The wording of a reason. -/
def Reason.message : Reason → String
  | emptyFormula => "empty formula"
  | illegalCharacter c => "illegal character " ++ Text.quoted (String.ofList [c])
  | unbalanced => "unbalanced parentheses"
  | illegalToken c => "Illegal character \"" ++ String.ofList [c] ++ "\""
  | unexpected token rest =>
    "Syntax error at \"" ++ token ++ "\"\nremaining input:\n" ++ " ".intercalate rest ++ "\n"
  | unexpectedEnd => "'NoneType' object has no attribute 'value'"
  | unknownOperator symbol => "Unknown operator: \"" ++ symbol ++ "\""
  | emptyExpression => "empty expression"
  | notExpression => "<syntax error>"
  | unsupportedConstruct name => "unsupported construct " ++ name
  | unsupportedConstant text => "unsupported constant " ++ text
  | notYaml => "<yaml error>"
  | notMapping => "expected a mapping at top level"
  | invalid _ => "<validation error>"

/-- The wording of an error. -/
def Error.message : Error → String
  | malformed text reason => "Malformed expression " ++ Text.quoted text ++ ": " ++ reason.message
  | unbound name available =>
    "Variable " ++ name ++ " is not bound (available: " ++ Text.quotedList available ++ ")"
  | cycle path => "Cycle detected in RDG: " ++ " -> ".intercalate path
  | noExpression kind =>
    "Model checking failed for " ++ kind ++ ": model carries no reliability expression"
  | invalid _ => ""
  | unreadableSetting field source =>
    "error parsing value for field \"" ++ field ++ "\" from source \"" ++ source ++ "\""
  | divisionByZero dividend => "Division of " ++ dividend.text ++ " by a zero terminal."
  | zeroToNegative exponent => "Zero terminal raised to negative power " ++ exponent.text ++ "."
  | negativeToFraction base exponent =>
    "Negative terminal " ++ base.text ++ " raised to fractional power " ++ exponent.text ++ "."
  | beyondRange => "math range error"
  | integerTooLarge => "int too large to convert to float"
  | foreignDiagram => "Cannot combine diagrams from different managers."
  | notOperand kind => "Cannot use " ++ kind ++ " as a diagram operand."
  | alreadyCached id => "Reliability of node '" ++ id ++ "' is already cached."
  | outOfOrder child parent => "Child '" ++ child ++ "' of '" ++ parent ++ "' evaluated out of order."
  | missingResult id => "Reliability of '" ++ id ++ "' missing after evaluation."
  | sessionClosed => "Analysis session is closed."
  | noBuilder => "No RDG builder configured for this analyzer."
  | toolCrashed message => message
  | nullCharacter => "source code string cannot contain null bytes"

end ProductLine
