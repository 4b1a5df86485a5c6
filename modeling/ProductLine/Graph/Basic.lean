import ProductLine.Diagram.Handle

/-!
# Dependency graphs

A dependency graph holds the nodes of a product line: each has an id, the products it is part of, the model
its reliability is computed from, and the nodes it depends on, which may be shared, repeated or lead
back to it. Ids need not be distinct. Walks through a graph visit each key once and so end.
-/

namespace ProductLine

/-- The products that include a node: those of a formula, or those where a diagram is one. -/
inductive Presence where
  | formula (text : String)
  | diagram (handle : Handle)
deriving Inhabited

/-- What the reliability of a node is computed from: any datum, or a record that carries an expression. -/
inductive Model where
  | datum (value : Datum)
  | record (expression : Datum)
deriving Inhabited

/-- The name of the kind of a model. -/
def Model.kind : Model → String
  | datum value => value.kind
  | record _ => "NodeModel"

/-- A node whose children are given by `α`. -/
structure Node (α : Type) where
  id : String
  children : List α
  presence : Presence
  model : Model
deriving Inhabited

/-- The node with its children given otherwise. -/
def Node.withChildren {α β : Type} (node : Node α) (children : List β) : Node β :=
  ⟨node.id, children, node.presence, node.model⟩

/-- Finitely many nodes whose children are nodes of the same graph. -/
structure Graph where
  size : Nat
  nodes : Vector (Node (Fin size)) size

namespace Graph

/-- The node at an index. -/
def node (g : Graph) (i : Fin g.size) : Node (Fin g.size) := g.nodes[i]

/-- The id of the node at an index. -/
def id (g : Graph) (i : Fin g.size) : String := (g.node i).id

/-- The indices of the children of a node. -/
def children (g : Graph) (i : Fin g.size) : List (Fin g.size) := (g.node i).children

/-- The indices of all nodes. -/
def indices (g : Graph) : List (Fin g.size) := List.finRange g.size

/-- The indices below a bound. -/
def below (size : Nat) (children : List Nat) : List (Fin size) :=
  children.filterMap fun c => if h : c < size then some ⟨c, h⟩ else none

/-- The graph of a list of nodes whose children are places in the list. -/
def ofNodes (nodes : List (Node Nat)) : Graph :=
  let size := nodes.length
  ⟨size, ⟨(nodes.map fun node => node.withChildren (below size node.children)).toArray, by simp [size]⟩⟩

/-- How many nodes have a key that is not among `seen`. -/
def unseen {κ : Type} [DecidableEq κ] (g : Graph) (key : Fin g.size → κ) (seen : List κ) : Nat :=
  g.indices.countP fun j => decide (key j ∉ seen)

/-- A stronger condition that fails for one element more counts fewer elements. -/
theorem countP_lt {α : Type} {p q : α → Bool} {l : List α} (hpq : ∀ x ∈ l, p x → q x) {a : α} (ha : a ∈ l)
    (hp : p a = false) (hq : q a = true) : l.countP p < l.countP q := by
  induction l with
  | nil => cases ha
  | cons b l ih =>
    have hle : l.countP p ≤ l.countP q :=
      List.countP_mono_left fun x hx => hpq x (List.mem_cons_of_mem _ hx)
    rcases List.mem_cons.1 ha with rfl | hmem
    · simp only [List.countP_cons, hp, hq]
      simp
      omega
    · have := ih (fun x hx => hpq x (List.mem_cons_of_mem _ hx)) hmem
      have hb := hpq b (List.mem_cons_self ..)
      simp only [List.countP_cons]
      by_cases hpb : p b = true
      · simp [hpb, hb hpb]
        omega
      · simp [hpb]
        omega

/-- Seeing one more key leaves fewer nodes unseen. -/
theorem unseen_lt {κ : Type} [DecidableEq κ] (g : Graph) (key : Fin g.size → κ) {seen more : List κ}
    {i : Fin g.size} (h : key i ∉ seen) (hi : key i ∈ more) (hs : ∀ k ∈ seen, k ∈ more) :
    g.unseen key more < g.unseen key seen := by
  unfold unseen
  refine countP_lt ?_ (List.mem_finRange i) ?_ ?_
  · intro j _ hj
    simp only [decide_eq_true_eq] at hj ⊢
    exact fun hjs => hj (hs _ hjs)
  · simp [hi]
  · simpa using h

/-- Seeing more keys leaves no more nodes unseen. -/
theorem unseen_le {κ : Type} [DecidableEq κ] (g : Graph) (key : Fin g.size → κ) {seen more : List κ}
    (hs : ∀ k ∈ seen, k ∈ more) : g.unseen key more ≤ g.unseen key seen := by
  refine List.countP_mono_left fun j _ hj => ?_
  simp only [decide_eq_true_eq] at hj ⊢
  exact fun hjs => hj (hs _ hjs)

/-- The nodes met by a walk that goes on to `next` of each and visits each key once. -/
def walk {κ : Type} [DecidableEq κ] (g : Graph) (key : Fin g.size → κ) (next : Fin g.size → List (Fin g.size)) :
    (seen : List κ) → (stack : List (Fin g.size)) → List (Fin g.size)
  | _, [] => []
  | seen, i :: stack =>
    if _ : key i ∈ seen then walk g key next seen stack
    else i :: walk g key next (key i :: seen) (next i ++ stack)
termination_by seen stack => (g.unseen key seen, stack.length)
decreasing_by
  · exact Prod.Lex.right _ (Nat.lt_succ_self _)
  · exact Prod.Lex.left _ _
      (g.unseen_lt key ‹_› (List.mem_cons_self ..) fun _ hk => List.mem_cons_of_mem _ hk)

/-- The nodes reachable from a node, each id once, parents before children and children in order. -/
def descendants (g : Graph) (root : Fin g.size) : List (Fin g.size) := g.walk g.id g.children [] [root]

/-- The nodes reachable from a node, each node once, the last child first. -/
def reachable (g : Graph) (root : Fin g.size) : List (Fin g.size) :=
  g.walk (fun i => i) (fun i => (g.children i).reverse) [] [root]

/-- The text of a node: its id and those of its children. -/
def text (g : Graph) (i : Fin g.size) : String :=
  "RDGNode(id=" ++ Text.quoted (g.id i) ++ ", children=" ++ Text.quotedList ((g.children i).map g.id) ++ ")"

end Graph

end ProductLine
