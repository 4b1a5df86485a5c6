import ProductLine.Graph.Basic

/-!
# Cycles

A search in depth keeps the ids on the path to the node it is at and the ids it is done with. A child whose
id is on the path closes a cycle.
-/

namespace ProductLine

namespace Graph

mutual

/-- Searches below a node reached by `path`. Either the path to an id that stands on it already, or the ids
that are done. -/
def search (g : Graph) (path done : List String) (i : Fin g.size) : Except (List String) (List String) :=
  if _ : g.id i ∈ path then .error (path ++ [g.id i])
  else
    match searchAll g (path ++ [g.id i]) done (g.children i) with
    | .error closed => .error closed
    | .ok done => .ok (g.id i :: done)
termination_by (g.unseen g.id path, 0)
decreasing_by
  exact Prod.Lex.left _ _ (g.unseen_lt g.id ‹_› (by simp) fun _ hk => by simp [hk])

/-- Searches below several nodes reached by `path`, one after the other. -/
def searchAll (g : Graph) (path done : List String) : List (Fin g.size) → Except (List String) (List String)
  | [] => .ok done
  | i :: rest =>
    if g.id i ∈ done then searchAll g path done rest
    else
      match search g path done i with
      | .error closed => .error closed
      | .ok done => searchAll g path done rest
termination_by nodes => (g.unseen g.id path, nodes.length + 1)
decreasing_by
  · exact Prod.Lex.right _ (Nat.lt_succ_self _)
  · exact Prod.Lex.right _ (Nat.succ_pos _)
  · exact Prod.Lex.right _ (Nat.lt_succ_self _)

end

/-- The part of a closed path from the first time its last id stands on it. -/
def cycleOf (closed : List String) : List String :=
  match closed.getLast? with
  | some last => closed.dropWhile (· ≠ last)
  | none => []

/-- The first cycle found below the nodes in order: its ids, the first again at the end. -/
def findCycle? (g : Graph) : Option (List String) :=
  match g.searchAll [] [] g.indices with
  | .error closed => some (cycleOf closed)
  | .ok _ => none

/-- How far a search has got with an id: below it, or done with it. -/
inductive Colour where
  | grey
  | black
deriving DecidableEq

/-- How many children are still to be looked at, and how many nodes the search is below. -/
def pendingCount {g : Graph} : List (Fin g.size × List (Fin g.size)) → Nat
  | [] => 0
  | (_, children) :: stack => children.length + 1 + pendingCount stack

/-- Goes on with a search in depth, given the colours of the ids met so far, the last one first, and the
nodes it is below, innermost first, each with its children not yet looked at. The ids of the first edge that
leads to a grey id, if there is one. -/
def closingEdge (g : Graph) (colours : List (String × Colour)) :
    List (Fin g.size × List (Fin g.size)) → Option (String × String)
  | [] => none
  | (i, []) :: stack => closingEdge g ((g.id i, .black) :: colours) stack
  | (i, c :: rest) :: stack =>
    match _ : colours.lookup (g.id c) with
    | some .grey => some (g.id i, g.id c)
    | some .black => closingEdge g colours ((i, rest) :: stack)
    | none => closingEdge g ((g.id c, .grey) :: colours) ((c, g.children c) :: (i, rest) :: stack)
termination_by stack => (g.unseen g.id (colours.map Prod.fst), pendingCount stack)
decreasing_by
  · have hle : g.unseen g.id (g.id i :: colours.map Prod.fst) ≤ g.unseen g.id (colours.map Prod.fst) :=
      g.unseen_le g.id fun k hk => List.mem_cons_of_mem _ hk
    rcases Nat.lt_or_eq_of_le hle with hlt | heq
    · exact Prod.Lex.left _ _ hlt
    · simp only [List.map_cons, heq]
      exact Prod.Lex.right _ (by simp [pendingCount])
  · exact Prod.Lex.right _ (by simp [pendingCount])
  · refine Prod.Lex.left _ _ (g.unseen_lt g.id (i := c) ?_ (by simp) fun k hk => List.mem_cons_of_mem _ hk)
    have hnone := ‹List.lookup _ _ = none›
    simp only [List.lookup_eq_none_iff] at hnone
    intro hmem
    obtain ⟨entry, he, heq⟩ := List.mem_map.1 hmem
    simpa [heq] using hnone entry he

/-- The edge that first closes a cycle below a node. -/
def closingEdge? (g : Graph) (root : Fin g.size) : Option (String × String) :=
  closingEdge g [(g.id root, .grey)] [(root, g.children root)]

end Graph

end ProductLine
