import ProductLine.Datum.Reading
import ProductLine.Graph.Cycle

/-!
# Documents

A document describes a dependency graph: a root and nodes that name their children by id. A draft is read
from a datum; it is a document if its ids are distinct and every id it mentions is declared. A document
describes a graph if no node depends on itself.
-/

namespace ProductLine

/-- A root and nodes that name their children. -/
structure Draft where
  root : String
  nodes : List (Node String)

/-- The declared ids. -/
def Draft.ids (d : Draft) : List String := d.nodes.map Node.id

/-- A draft with distinct ids that mentions only declared ones. -/
structure Document extends Draft where
  distinct : toDraft.ids.Nodup
  rooted : root ∈ toDraft.ids
  declared : ∀ node ∈ nodes, ∀ child ∈ node.children, child ∈ toDraft.ids

namespace Draft

/-- The presence condition of a node that gives none. -/
def always : String := "true"

/-- A node whose model is an expression. -/
def nodeOf (id expression condition : String) (children : List String) : Node String :=
  ⟨id, children, .formula condition, .datum (.text expression)⟩

/-- A node of a draft. -/
def readNode : Datum → Reading (Node String)
  | .map entries =>
    Reading.ap (Reading.ap (Reading.ap (Reading.ap (.ok nodeOf)
      (Reading.field entries "id" Datum.readText (.fault .missing)))
      (Reading.field entries "reliability_expression" Datum.readText (.fault .missing)))
      (Reading.field entries "presence_condition" Datum.readText (.ok always)))
      (Reading.field entries "children" Datum.readTexts (.ok []))
  | _ => .fault .notRecord

/-- The nodes of a draft. -/
def readNodes : Datum → Reading (List (Node String))
  | .list ds => Reading.items readNode ds
  | _ => .fault .notList

/-- The draft a datum describes. -/
def ofDatum : Datum → Reading Draft
  | .map entries =>
    Reading.ap (Reading.ap (.ok Draft.mk)
      (Reading.field entries "root" Datum.readText (.fault .missing)))
      (Reading.field entries "nodes" readNodes (.fault .missing))
  | _ => .fault .notRecord

/-- The ids that occur earlier in a list, at each repetition. -/
def repeated : (seen : List String) → List String → List String
  | _, [] => []
  | seen, id :: rest => if seen.contains id then id :: repeated seen rest else repeated (id :: seen) rest

/-- The children of a node that are not declared. -/
def undeclared (d : Draft) (node : Node String) : List String := node.children.filter (· ∉ d.ids)

/-- The draft as a document, or the first thing that is wrong with its ids. -/
def check (d : Draft) : Except String Document :=
  if distinct : d.ids.Nodup then
    if rooted : d.root ∈ d.ids then
      match h : d.nodes.find? (d.undeclared · ≠ []) with
      | some node =>
        .error ("Node '" ++ node.id ++ "': children " ++ Text.quotedList (d.undeclared node) ++ " do not exist.")
      | none => .ok ⟨d, distinct, rooted, by
          intro node hnode child hchild
          have hnone := List.find?_eq_none.1 h node hnode
          simp only [undeclared, ne_eq, decide_not, Bool.not_eq_true', decide_eq_false_iff_not,
            Decidable.not_not, List.filter_eq_nil_iff] at hnone
          exact hnone child hchild⟩
    else .error ("Root '" ++ d.root ++ "' does not exist.")
  else .error ("Duplicate node ids: " ++ Text.quotedList (repeated [] d.ids))

end Draft

namespace Document

/-- The document a datum describes. -/
def ofDatum (datum : Datum) : Reading Document :=
  match Draft.ofDatum datum with
  | .error found => .error found
  | .ok draft =>
    match draft.check with
    | .ok d => .ok d
    | .error reason => .fault (.refused reason)

/-- The nodes of a document with their children by place. -/
def placed (d : Document) : List (Node Nat) :=
  d.nodes.map fun node => node.withChildren (node.children.map d.ids.idxOf)

/-- The nodes and edges of a document as a graph. -/
def graph (d : Document) : Graph := .ofNodes d.placed

/-- The place of the root. -/
def rootIndex (d : Document) : Fin d.graph.size :=
  ⟨d.ids.idxOf d.root, by
    have := List.idxOf_lt_length_iff.2 d.rooted
    simpa [graph, Graph.ofNodes, placed, Draft.ids] using this⟩

/-- The graph of a document and its root, unless there is a cycle. -/
def build (d : Document) : Except Error ((g : Graph) × Fin g.size) :=
  match d.graph.findCycle? with
  | some cycle => .error (.cycle cycle)
  | none => .ok ⟨d.graph, d.rootIndex⟩

end Document

end ProductLine
