import ProductLine.Diagram.Chart
import ProductLine.Text.Name

/-!
# Charts as text

A chart is written as a directed graph in the dot language: boxes for values, ellipses for questions, a
dashed arrow for the absent and a solid one for the present feature.
-/

namespace ProductLine

namespace Dot

/-- The words with a meaning in dot. -/
def keywords : List String := ["graph", "subgraph", "digraph", "node", "edge", "strict"]

/-- Whether a text is a word of dot, in any case. -/
def isKeyword (cs : List Char) : Bool := keywords.contains (String.ofList (cs.map Char.toLower))

/-- The text without one line end behind it. -/
def dropLineEnd (cs : List Char) : List Char :=
  if cs.getLast? = some '\n' then cs.dropLast else cs

/-- Whether a text is a plain decimal: digits with at most one point, and at least one digit. -/
def isDecimal (cs : List Char) : Bool :=
  let fraction := cs.dropWhile Char.isDigit
  match fraction with
  | [] => cs ≠ []
  | '.' :: digits => digits.all Char.isDigit && cs ≠ ['.']
  | _ => false

/-- Whether a text stands between two different characters that open and close it. -/
def isBetween (opening closing : Char) (cs : List Char) : Bool :=
  2 ≤ cs.length && cs.head? == some opening && cs.getLast? == some closing

/-- Whether a text may be written as it is. -/
def isPlain (cs : List Char) : Bool :=
  !isKeyword cs && cs ≠ [] &&
    ((cs.all Text.isAlphanumeric && !(cs.head?.any Text.isDigit)) || cs.all Text.isDigit ||
      isDecimal (dropLineEnd cs) || isBetween '"' '"' (dropLineEnd cs) || isBetween '<' '>' (dropLineEnd cs))

/-- A character between quotes. -/
def escape : Char → List Char
  | '"' => ['\\', '"']
  | '\n' => ['\\', 'n']
  | '\r' => ['\\', 'r']
  | c => [c]

/-- A text as a value of dot. -/
def value (s : String) : String :=
  if isPlain s.toList then s else String.ofList ('"' :: s.toList.flatMap escape ++ ['"'])

/-- The name of a vertex. -/
def name (vertex : Nat) : String := "n" ++ toString vertex

end Dot

/-- The shape of a vertex. -/
def Vertex.shape : Vertex → String
  | box _ => "box"
  | question _ _ _ => "ellipse"

/-- The line of an arrow. -/
def Arrow.style (arrow : Arrow) : String := if arrow.present then "solid" else "dashed"

namespace Chart

/-- The chart in the dot language, under a label unless that is empty. -/
def dot (label : String) (chart : Chart) : String :=
  let heading := if label = "" then [] else ["label=" ++ Dot.value label ++ ";"]
  let vertices := chart.vertices.zipIdx.map fun (v, i) =>
    Dot.name i ++ " [label=" ++ Dot.value v.label ++ ", shape=" ++ v.shape ++ "];"
  let arrows := chart.arrows.map fun a =>
    Dot.name a.source ++ " -> " ++ Dot.name a.target ++ " [style=" ++ a.style ++ "];"
  String.join ((["strict digraph \x7b"] ++ heading ++ vertices ++ arrows ++ ["\x7d"]).map (· ++ "\n"))

end Chart

end ProductLine
