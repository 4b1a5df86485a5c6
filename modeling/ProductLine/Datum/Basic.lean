import ProductLine.Binary64.Basic

/-!
# Structured values

A datum is a value of a document, of a setting or of an operand: a scalar, a list, or a mapping that keeps
the order of its entries.
-/

namespace ProductLine

/-- A structured value. The keys of a mapping are data themselves. -/
inductive Datum where
  | null
  | bool (value : Bool)
  | int (value : Int)
  | float (value : Binary64)
  | text (value : String)
  | date
  | list (items : List Datum)
  | map (entries : List (Datum × Datum))
deriving Inhabited

namespace Datum

/-- The name of the kind of a datum. -/
def kind : Datum → String
  | null => "NoneType"
  | bool _ => "bool"
  | int _ => "int"
  | float _ => "float"
  | text _ => "str"
  | date => "date"
  | list _ => "list"
  | map _ => "dict"

/-- The entry of a mapping under a text, the last one if there are several. -/
def entry? (key : String) (entries : List (Datum × Datum)) : Option Datum :=
  (entries.reverse.find? fun
    | (text k, _) => k == key
    | _ => false).map Prod.snd

end Datum

end ProductLine
