import ProductLine.Diagram.Basic

/-!
# Charts

A chart shows a diagram as a graph of questions about features that ends in boxes with values. Its
vertices are the distinct restrictions of the diagram, each once, in the order in which a walk that takes
the absent feature first meets them; the root is the first. Shared restrictions are shared vertices.
-/

namespace ProductLine

/-- The values of a diagram, by their place in its cover, each with the region left for it. -/
abbrev Partition := List (Nat × Region)

namespace Partition

/-- Whether the partition depends on the feature at a level. -/
def dependsOn (p : Partition) (level : Nat) : Bool := p.any (·.2.dependsOn level)

/-- The partition once the feature at a level is given or taken. -/
def restrict (level : Nat) (answer : Bool) (p : Partition) : Partition :=
  (p.map fun (i, r) => (i, r.restrict level answer)).filter (·.2 ≠ .empty)

/-- The distinct partitions that arise from `p` by restricting the levels in turn, added to those `seen`. A
partition into one region is restricted no further; into more, it must depend on a level that is left. -/
def explore : (levels : List Nat) → (seen : List Partition) → Partition → Option (List Partition)
  | [], seen, p => if seen.contains p then some seen else if p.length = 1 then some (seen ++ [p]) else none
  | level :: levels, seen, p =>
    if seen.contains p then some seen
    else if p.length = 1 then some (seen ++ [p])
    else if p.dependsOn level then
      match explore levels (seen ++ [p]) (p.restrict level false) with
      | none => none
      | some seen => explore levels seen (p.restrict level true)
    else explore levels seen p

end Partition

/-- A vertex of a chart: a box with a value, or a question about a feature with the vertices that follow. -/
inductive Vertex where
  | box (value : Binary64)
  | question (feature : String) (low high : Nat)
deriving DecidableEq

/-- The edge to the vertex for an absent or for a present feature. -/
structure Arrow where
  source : Nat
  target : Nat
  present : Bool
deriving DecidableEq

/-- A graph of vertices, the root first. -/
structure Chart where
  vertices : List Vertex
deriving DecidableEq

namespace Chart

/-- The vertex of a partition among all partitions of a diagram with the values `values`. -/
def vertexOf (space : FeatureSpace) (levels : List Nat) (values : List Binary64) (all : List Partition)
    (p : Partition) : Vertex :=
  match levels.find? p.dependsOn with
  | some level =>
    .question (space.nameOf level) (all.idxOf (p.restrict level false)) (all.idxOf (p.restrict level true))
  | none => .box ((p.head?.bind fun e => values[e.1]?).getD .zero)

/-- The levels on which a diagram depends. -/
def levels (space : FeatureSpace) (d : Diagram) : List Nat :=
  (List.range space.features.length).filter fun level => d.regions.any (·.2.dependsOn level)

/-- The regions of a diagram, by their place in its cover. -/
def partition (d : Diagram) : Partition := d.cover.zipIdx.map fun (e, i) => (i, e.2)

/-- The chart of a diagram, unless a question is left to ask and no feature to ask about. -/
def ofDiagram? (space : FeatureSpace) (d : Diagram) : Option Chart :=
  (Partition.explore (levels space d) [] (partition d)).map fun all =>
    ⟨all.map (vertexOf space (levels space d) (d.cover.map Prod.fst) all)⟩

/-- The chart of a diagram. -/
def ofDiagram (space : FeatureSpace) (d : Diagram) : Chart := (ofDiagram? space d).getD ⟨[]⟩

/-- The arrows of a chart by source, the one for the absent feature first. -/
def arrows (chart : Chart) : List Arrow :=
  chart.vertices.zipIdx.flatMap fun
    | (.question _ low high, i) => [⟨i, low, false⟩, ⟨i, high, true⟩]
    | (.box _, _) => []

end Chart

/-- The label of a vertex. -/
def Vertex.label : Vertex → String
  | box value => value.briefText
  | question feature _ _ => feature

end ProductLine
