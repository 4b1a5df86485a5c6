import ProductLine.Datum.Reading
import ProductLine.Graph.Basic

/-!
# Nested nodes

A node may be given with its children inside it. Each node given this way is a node of its own, even if ids
are repeated.
-/

namespace ProductLine

/-- A node that contains its children. -/
inductive NestedNode where
  | node (id : String) (children : List NestedNode) (presence : Presence) (model : Model)

namespace NestedNode

/-- The faults of a datum that is neither a formula nor a diagram, one for each of the two. -/
def noPresence : List Finding :=
  [⟨[.field "str"], .notText⟩, ⟨[.field "is-instance[ADD]"], .notDiagram⟩]

/-- A presence condition, given as a formula. -/
def readPresence : Datum → Reading Presence
  | .text s => .ok (.formula s)
  | _ => .error noPresence

/-- A node without children, given by its parts. -/
def bare (id : Datum) (presence : Reading Presence) (model : Model) : Reading (Node Nat) :=
  Reading.ap (Reading.ap (.ok fun id presence => ⟨id, [], presence, model⟩)
    (Reading.within (.field "id") (Datum.readText id)))
    (Reading.within (.field "presence_condition") presence)

/-- A node and its children. -/
def ofDatum : Datum → Reading NestedNode
  | .map entries =>
    let children : Reading (List NestedNode) := Reading.within (.field "children") (
      match _ : Datum.entry? "children" entries with
      | some (.list ds) =>
        Reading.all (ds.attach.zipIdx.map fun (⟨d, _⟩, i) => Reading.within (.item i) (ofDatum d))
      | some _ => .fault .notList
      | none => .ok [])
    Reading.ap (Reading.ap (Reading.ap (Reading.ap (.ok node)
      (Reading.field entries "id" Datum.readText (.fault .missing)))
      children)
      (Reading.field entries "presence_condition" readPresence (.ok (.formula "true"))))
      (Reading.field entries "model" (fun d => .ok (.datum d)) (.ok (.datum .null)))
  | _ => .fault .notRecord
termination_by d => sizeOf d
decreasing_by
  rename_i hentry hmem
  have h := Datum.sizeOf_entry? hentry
  have hlt := List.sizeOf_lt_of_mem hmem
  simp only [Datum.list.sizeOf_spec, Datum.map.sizeOf_spec] at *
  omega

mutual

/-- The number of nodes. -/
def size : NestedNode → Nat
  | node _ children _ _ => sizeAll children + 1

/-- The number of nodes in several. -/
def sizeAll : List NestedNode → Nat
  | [] => 0
  | t :: rest => size t + sizeAll rest

end

/-- The places of nodes laid out one after the other from a place on. -/
def places : (from_ : Nat) → List NestedNode → List Nat
  | _, [] => []
  | from_, t :: rest => from_ :: places (from_ + t.size) rest

mutual

/-- The nodes laid out from a place on, parents before children. -/
def layOut (from_ : Nat) : NestedNode → List (Node Nat)
  | node id children presence model =>
    ⟨id, places (from_ + 1) children, presence, model⟩ :: layOutAll (from_ + 1) children

/-- Several nodes laid out one after the other. -/
def layOutAll (from_ : Nat) : List NestedNode → List (Node Nat)
  | [] => []
  | t :: rest => layOut from_ t ++ layOutAll (from_ + t.size) rest

end

/-- The nodes of a nested node, itself first. -/
def nodes (t : NestedNode) : List (Node Nat) := t.layOut 0

end NestedNode

end ProductLine
