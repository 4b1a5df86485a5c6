import ProductLine.Graph.Builder
import ProductLine.Proofs.Graph.Cycle
import ProductLine.Proofs.Graph.Walk

/-!
# Documents and their graphs

A draft that was read is a document if its ids are distinct and all that it mentions are declared
(`Draft.Consistent`), and describes a graph if no id depends on itself (`Draft.Acyclic`). Then the graph that
is built has one node for each id, with the children, the presence condition and the expression that the draft
gives it (`Graph.Realizes`). The same graph comes out if the nodes are made one after the other, each from its
children, in any order in which parents come first, read from its end (`Draft.assemble_realizes`).

Main statement: `Builder.document_spec`, what the builder of documents gives for every draft.
-/

namespace ProductLine

namespace Draft

/-- Whether an id is declared as the parent of another one. -/
def DependsOn (d : Draft) (a b : String) : Prop := ∃ node ∈ d.nodes, node.id = a ∧ b ∈ node.children

/-- Whether no id depends on itself, be it below the root or not. -/
def Acyclic (d : Draft) : Prop := ∀ id, ¬ Relation.TransGen d.DependsOn id id

/-- Whether ids are distinct, and the root and all children are declared. -/
structure Consistent (d : Draft) : Prop where
  distinct : d.ids.Nodup
  rooted : d.root ∈ d.ids
  declared : ∀ node ∈ d.nodes, ∀ child ∈ node.children, child ∈ d.ids

/-- Whether an order of the declared ids has each id before its children. -/
structure ParentsFirst (d : Draft) (order : List String) : Prop where
  perm : order.Perm d.ids
  before : ∀ a b, d.DependsOn a b → [a, b].Sublist order

/-- Makes the nodes of a draft one after the other, the last id first, each from children that were made before, and
gives their places to its parents. There is no result if an id is not declared or a child was not made. -/
def assemble (d : Draft) : List String → Option (List (Node Nat))
  | [] => some []
  | id :: later =>
    match assemble d later, d.nodes.find? (·.id = id) with
    | some made, some node =>
      if ∀ child ∈ node.children, child ∈ made.map Node.id then
        some (made ++ [node.withChildren (node.children.map (made.map Node.id).idxOf)])
      else none
    | _, _ => none

/-- Whether nodes are some of a draft, under distinct ids and with their children by place. -/
structure Placed (d : Draft) (nodes : List (Node Nat)) : Prop where
  distinct : (nodes.map Node.id).Nodup
  inside : ∀ node ∈ nodes, ∀ place ∈ node.children, place < nodes.length
  described : ∀ node ∈ nodes, node.withChildren (node.children.map ((nodes.map Node.id).getD · "")) ∈ d.nodes

end Draft

namespace Graph

/-- Whether the nodes below a root are those that a draft describes, one for each id. -/
structure Realizes (g : Graph) (root : Fin g.size) (d : Draft) : Prop where
  rooted : g.id root = d.root
  distinct : g.DistinctIds root
  described : ∀ i, g.Reaches root i → (g.node i).withChildren ((g.children i).map g.id) ∈ d.nodes

end Graph

namespace Draft

variable {d : Draft}

/-! Checking a draft -/

/-- A draft is accepted as it is if it is consistent, and refused with some reason if not. -/
lemma check_spec (d : Draft) :
    (d.Consistent ∧ ∃ doc, d.check = .ok doc ∧ doc.toDraft = d) ∨
    (¬ d.Consistent ∧ ∃ reason, d.check = .error reason) := by
  unfold check
  split
  · rename_i hdistinct
    split
    · rename_i hrooted
      split
      · rename_i node hnode
        refine .inr ⟨fun h => ?_, _, rfl⟩
        have hmem := List.mem_of_find?_eq_some hnode
        have hsome := List.find?_some hnode
        have hnone : d.undeclared node = [] := by
          apply List.filter_eq_nil_iff.2
          intro child hchild
          simpa using h.declared node hmem child hchild
        simp [hnone] at hsome
      · rename_i hnone
        refine .inl ⟨⟨hdistinct, hrooted, ?_⟩, _, rfl, rfl⟩
        intro node hnode child hchild
        have hall := List.find?_eq_none.1 hnone node hnode
        have hnil : d.undeclared node = [] := by simpa using hall
        simpa using List.filter_eq_nil_iff.1 hnil child hchild
    · rename_i hrooted
      exact .inr ⟨fun h => hrooted h.rooted, _, rfl⟩
  · rename_i hdistinct
    exact .inr ⟨fun h => hdistinct h.distinct, _, rfl⟩

/-! Nodes by place -/

section Placed

variable {nodes : List (Node Nat)}

/-- Each node of a graph made by place is a node of the list, with its places as children. -/
lemma exists_node_ofNodes (i : Fin (Graph.ofNodes nodes).size) : ∃ node, nodes[i.val]? = some node ∧
    (Graph.ofNodes nodes).node i = node.withChildren (Graph.below (Graph.ofNodes nodes).size node.children) := by
  have hlt : i.val < nodes.length := i.isLt
  refine ⟨nodes[i.val], List.getElem?_eq_getElem hlt, ?_⟩
  have hmap :
      i.val < (nodes.map fun node => node.withChildren (Graph.below nodes.length node.children)).length := by
    rwa [List.length_map]
  show (nodes.map fun node => node.withChildren (Graph.below nodes.length node.children))[i.val] = _
  rw [List.getElem_map]
  rfl

/-- The id of a node stands at its place among the ids. -/
lemma getElem?_ids (i : Fin (Graph.ofNodes nodes).size) :
    (nodes.map Node.id)[i.val]? = some ((Graph.ofNodes nodes).id i) := by
  obtain ⟨node, hget, hnode⟩ := exists_node_ofNodes i
  rw [List.getElem?_map, hget, Graph.id, hnode]
  rfl

/-- Every id of the list is that of a node. -/
lemma exists_index {id : String} (hid : id ∈ nodes.map Node.id) : ∃ i, (Graph.ofNodes nodes).id i = id := by
  obtain ⟨k, hk, rfl⟩ := List.getElem_of_mem hid
  have hinside : k < (Graph.ofNodes nodes).size := by rwa [List.length_map] at hk
  have hget := getElem?_ids ⟨k, hinside⟩
  rw [List.getElem?_eq_getElem hk] at hget
  exact ⟨⟨k, hinside⟩, (Option.some.inj hget).symm⟩

/-- Places inside a list of nodes become the nodes with these ids. -/
lemma map_id_below {places : List Nat} (h : ∀ place ∈ places, place < nodes.length) :
    (Graph.below (Graph.ofNodes nodes).size places).map (Graph.ofNodes nodes).id =
      places.map ((nodes.map Node.id).getD · "") := by
  induction places with
  | nil => rfl
  | cons place places ih =>
    obtain ⟨hplace, hplaces⟩ := List.forall_mem_cons.1 h
    have hinside : place < (Graph.ofNodes nodes).size := hplace
    have hbelow : Graph.below (Graph.ofNodes nodes).size (place :: places) =
        ⟨place, hinside⟩ :: Graph.below (Graph.ofNodes nodes).size places := by
      rw [Graph.below, List.filterMap_cons, dif_pos hinside]
      rfl
    rw [hbelow, List.map_cons, List.map_cons, ih hplaces, List.getD_eq_getElem?_getD,
      getElem?_ids ⟨place, hinside⟩, Option.getD_some]

/-- The ids at the places of ids are these ids. -/
lemma map_getD_idxOf {ids names : List String} (h : ∀ name ∈ names, name ∈ ids) :
    (names.map ids.idxOf).map (ids.getD · "") = names := by
  induction names with
  | nil => rfl
  | cons name names ih =>
    obtain ⟨hname, hnames⟩ := List.forall_mem_cons.1 h
    have hlt := List.idxOf_lt_length_iff.2 hname
    rw [List.map_cons, List.map_cons, ih hnames, List.getD_eq_getElem?_getD, List.getElem?_eq_getElem hlt,
      List.getElem_idxOf, Option.getD_some]

namespace Placed

/-- Nodes placed by distinct ids have distinct ids. -/
lemma injective (h : d.Placed nodes) : Function.Injective (Graph.ofNodes nodes).id := by
  intro i j hij
  have hget : (nodes.map Node.id)[i.val]? = (nodes.map Node.id)[j.val]? := by
    rw [getElem?_ids, getElem?_ids, hij]
  have hlt : i.val < (nodes.map Node.id).length := by
    rw [List.length_map]
    exact i.isLt
  exact Fin.ext ((List.getElem?_inj hlt h.distinct).1 hget)

/-- Every node of the graph is one of the draft, with the ids of its children. -/
lemma described_graph (h : d.Placed nodes) (i : Fin (Graph.ofNodes nodes).size) :
    ((Graph.ofNodes nodes).node i).withChildren (((Graph.ofNodes nodes).children i).map (Graph.ofNodes nodes).id) ∈
      d.nodes := by
  obtain ⟨node, hget, hnode⟩ := exists_node_ofNodes i
  have hmem : node ∈ nodes := List.mem_of_getElem? hget
  have hchildren : ((Graph.ofNodes nodes).children i).map (Graph.ofNodes nodes).id =
      node.children.map ((nodes.map Node.id).getD · "") := by
    rw [Graph.children, hnode]
    exact map_id_below (h.inside node hmem)
  rw [hchildren, hnode]
  exact h.described node hmem

/-- The graph realizes a draft from the node with the id of the root on. -/
lemma realizes (h : d.Placed nodes) {root : Fin (Graph.ofNodes nodes).size}
    (hroot : (Graph.ofNodes nodes).id root = d.root) : (Graph.ofNodes nodes).Realizes root d :=
  ⟨hroot, fun _ _ _ _ hid => h.injective hid, fun i _ => h.described_graph i⟩

/-- The ids of nodes depend on each other as the nodes do. -/
lemma dependsOn (h : d.Placed nodes) {i c : Fin (Graph.ofNodes nodes).size}
    (hc : c ∈ (Graph.ofNodes nodes).children i) :
    d.DependsOn ((Graph.ofNodes nodes).id i) ((Graph.ofNodes nodes).id c) :=
  ⟨_, h.described_graph i, rfl, List.mem_map_of_mem hc⟩

/-- What the id of a node depends on are the ids of its children. -/
lemma exists_child (h : d.Placed nodes) (hd : d.ids.Nodup) {i : Fin (Graph.ofNodes nodes).size} {b : String}
    (hb : d.DependsOn ((Graph.ofNodes nodes).id i) b) :
    ∃ c ∈ (Graph.ofNodes nodes).children i, (Graph.ofNodes nodes).id c = b := by
  obtain ⟨node, hnode, hid, hb⟩ := hb
  have hsame := List.inj_on_of_nodup_map hd hnode (h.described_graph i) hid
  rw [hsame] at hb
  exact List.mem_map.1 hb

/-- A node is made from the places of its children among the nodes made before, which keep their places. -/
lemma concat (h : d.Placed nodes) {node : Node String} (hnode : node ∈ d.nodes)
    (hnew : node.id ∉ nodes.map Node.id) (hchildren : ∀ child ∈ node.children, child ∈ nodes.map Node.id) :
    d.Placed (nodes ++ [node.withChildren (node.children.map (nodes.map Node.id).idxOf)]) := by
  have hids : (nodes ++ [node.withChildren (node.children.map (nodes.map Node.id).idxOf)]).map Node.id =
      nodes.map Node.id ++ [node.id] := by
    rw [List.map_append]
    rfl
  have hinside : ∀ place ∈ node.children.map (nodes.map Node.id).idxOf, place < nodes.length := by
    intro place hmem
    obtain ⟨child, hchild, rfl⟩ := List.mem_map.1 hmem
    have hlt := List.idxOf_lt_length_iff.2 (hchildren child hchild)
    rwa [List.length_map] at hlt
  -- one more node at the end leaves the ids at the places before it as they are
  have hkept {places : List Nat} (hplaces : ∀ place ∈ places, place < nodes.length) :
      places.map ((nodes.map Node.id ++ [node.id]).getD · "") = places.map ((nodes.map Node.id).getD · "") := by
    apply List.map_congr_left
    intro place hmem
    have hlt : place < (nodes.map Node.id).length := by
      rw [List.length_map]
      exact hplaces place hmem
    rw [List.getD_eq_getElem?_getD, List.getElem?_append_left hlt, List.getD_eq_getElem?_getD]
  refine ⟨?_, ?_, ?_⟩
  · rw [hids]
    exact nodup_append_id h.distinct hnew
  · intro other hother place hmem
    rw [List.length_append, List.length_singleton]
    rcases List.mem_append.1 hother with hother | hother
    · exact Nat.lt_succ_of_lt (h.inside other hother place hmem)
    · obtain rfl := List.mem_singleton.1 hother
      exact Nat.lt_succ_of_lt (hinside place hmem)
  · rw [hids]
    intro other hother
    rcases List.mem_append.1 hother with hother | hother
    · rw [hkept (h.inside other hother)]
      exact h.described other hother
    · obtain rfl := List.mem_singleton.1 hother
      have hmap : (node.children.map (nodes.map Node.id).idxOf).map ((nodes.map Node.id ++ [node.id]).getD · "") =
          node.children := by
        rw [hkept hinside, map_getD_idxOf hchildren]
      show node.withChildren ((node.children.map (nodes.map Node.id).idxOf).map _) ∈ d.nodes
      rw [hmap]
      exact hnode

end Placed

end Placed

/-! Orders in which parents come first -/

section Order

variable {order : List String}

/-- What comes first in an order without repetitions has the smaller place. -/
lemma idxOf_lt_of_sublist {a b : String} (horder : order.Nodup) (h : [a, b].Sublist order) :
    order.idxOf a < order.idxOf b := by
  induction order with
  | nil => cases h
  | cons c order ih =>
    obtain ⟨hc, horder⟩ := List.nodup_cons.1 horder
    cases h with
    | cons _ h =>
      have hca : c ≠ a := fun heq => hc (heq ▸ h.subset List.mem_cons_self)
      have hcb : c ≠ b := fun heq => hc (heq ▸ h.subset (List.mem_cons_of_mem a List.mem_cons_self))
      rw [List.idxOf_cons_ne order hca, List.idxOf_cons_ne order hcb]
      exact Nat.succ_lt_succ (ih horder h)
    | cons_cons _ h =>
      have hcb : a ≠ b := fun heq => hc (heq ▸ h.subset List.mem_cons_self)
      rw [List.idxOf_cons_self, List.idxOf_cons_ne order hcb]
      exact Nat.succ_pos _

/-- Nothing depends on itself if there is an order in which parents come first. -/
lemma ParentsFirst.acyclic (h : d.ParentsFirst order) (hd : d.Consistent) : d.Acyclic := by
  have horder : order.Nodup := h.perm.nodup_iff.2 hd.distinct
  have hlt : ∀ a b, Relation.TransGen d.DependsOn a b → order.idxOf a < order.idxOf b := by
    intro a b hab
    induction hab with
    | single hab => exact idxOf_lt_of_sublist horder (h.before _ _ hab)
    | tail _ hbc ih => exact ih.trans (idxOf_lt_of_sublist horder (h.before _ _ hbc))
  exact fun id hcycle => Nat.lt_irrefl _ (hlt id id hcycle)

/-- Nodes can be made from the end of an order on in which parents come first: the children of each are there. -/
lemma exists_assemble (horder : order.Nodup) (hdeclared : ∀ id ∈ order, id ∈ d.ids)
    (hbefore : ∀ a ∈ order, ∀ b, d.DependsOn a b → [a, b].Sublist order) :
    ∃ made, d.assemble order = some made ∧ d.Placed made ∧ made.map Node.id = order.reverse := by
  induction order with
  | nil => exact ⟨[], rfl, ⟨.nil, by simp, by simp⟩, rfl⟩
  | cons id later ih =>
    obtain ⟨hid, hlater⟩ := List.nodup_cons.1 horder
    have hrest : ∀ a ∈ later, ∀ b, d.DependsOn a b → [a, b].Sublist later := by
      intro a ha b hab
      cases hbefore a (List.mem_cons_of_mem id ha) b hab with
      | cons _ h => exact h
      | cons_cons => exact absurd ha hid
    obtain ⟨made, hmade, hplaced, hids⟩ := ih hlater (fun a ha => hdeclared a (List.mem_cons_of_mem id ha)) hrest
    obtain ⟨node, hfind⟩ : ∃ node, d.nodes.find? (·.id = id) = some node := by
      obtain ⟨node, hnode, heq⟩ := List.mem_map.1 (hdeclared id List.mem_cons_self)
      apply Option.isSome_iff_exists.1
      exact List.find?_isSome.2 ⟨node, hnode, by simpa using heq⟩
    have hnode := List.mem_of_find?_eq_some hfind
    have heq : node.id = id := by simpa using List.find?_some hfind
    have hchildren : ∀ child ∈ node.children, child ∈ made.map Node.id := by
      intro child hchild
      rw [hids, List.mem_reverse]
      cases hbefore id List.mem_cons_self child ⟨node, hnode, heq, hchild⟩ with
      | cons _ h => exact absurd (h.subset List.mem_cons_self) hid
      | cons_cons _ h => exact h.subset List.mem_cons_self
    have hnew : node.id ∉ made.map Node.id := by
      rw [hids, List.mem_reverse, heq]
      exact hid
    refine ⟨made ++ [node.withChildren (node.children.map (made.map Node.id).idxOf)], ?_,
      hplaced.concat hnode hnew hchildren, ?_⟩
    · simp only [assemble, hmade, hfind]
      exact if_pos hchildren
    · rw [List.map_append, hids, List.reverse_cons, ← heq]
      rfl

/-- In whatever order with parents first the nodes are made, the graph is the one that the draft describes. -/
theorem assemble_realizes (hd : d.Consistent) (h : d.ParentsFirst order) :
    ∃ nodes root, d.assemble order = some nodes ∧ (Graph.ofNodes nodes).Realizes root d := by
  obtain ⟨nodes, hmade, hplaced, hids⟩ := exists_assemble (h.perm.nodup_iff.2 hd.distinct)
    (fun id hid => h.perm.mem_iff.1 hid) fun a _ b hab => h.before a b hab
  have hroot : d.root ∈ nodes.map Node.id := by
    rw [hids, List.mem_reverse]
    exact h.perm.mem_iff.2 hd.rooted
  obtain ⟨root, hroot⟩ := exists_index hroot
  exact ⟨nodes, root, hmade, hplaced.realizes hroot⟩

end Order

end Draft

/-! The graph that is built -/

namespace Document

/-- The draft of a document is consistent. -/
lemma consistent (doc : Document) : doc.toDraft.Consistent := ⟨doc.distinct, doc.rooted, doc.declared⟩

/-- The nodes of a document have its ids, in the same order. -/
lemma ids_placed (doc : Document) : doc.placed.map Node.id = doc.ids := by
  rw [placed, List.map_map]
  rfl

/-- The nodes of a document are where its draft places them. -/
lemma placed_nodes (doc : Document) : doc.toDraft.Placed doc.placed := by
  have hlength : doc.placed.length = doc.ids.length := by rw [← doc.ids_placed, List.length_map]
  refine ⟨?_, ?_, ?_⟩
  · rw [doc.ids_placed]
    exact doc.distinct
  · intro node hnode place hplace
    obtain ⟨given, hgiven, rfl⟩ := List.mem_map.1 hnode
    obtain ⟨child, hchild, rfl⟩ := List.mem_map.1 hplace
    rw [hlength]
    exact List.idxOf_lt_length_iff.2 (doc.declared given hgiven child hchild)
  · intro node hnode
    obtain ⟨given, hgiven, rfl⟩ := List.mem_map.1 hnode
    have hchildren : (given.children.map doc.ids.idxOf).map (doc.ids.getD · "") = given.children :=
      Draft.map_getD_idxOf (doc.declared given hgiven)
    rw [doc.ids_placed]
    show given.withChildren ((given.children.map doc.ids.idxOf).map _) ∈ doc.nodes
    rw [hchildren]
    exact hgiven

/-- The root of the graph of a document has the declared id. -/
lemma id_rootIndex (doc : Document) : doc.graph.id doc.rootIndex = doc.root := by
  have hget : doc.ids[doc.ids.idxOf doc.root]? = some doc.root := by
    rw [List.getElem?_eq_getElem (List.idxOf_lt_length_iff.2 doc.rooted), List.getElem_idxOf]
  have hid : (doc.placed.map Node.id)[doc.rootIndex.val]? = some (doc.graph.id doc.rootIndex) :=
    Draft.getElem?_ids doc.rootIndex
  rw [doc.ids_placed] at hid
  exact (Option.some.inj (hget.symm.trans hid)).symm

/-- The order in which a search is done with all nodes has parents first. -/
lemma parentsFirst_of_finished (doc : Document) {order : List String} (h : doc.graph.Finished order)
    (hall : ∀ i, doc.graph.id i ∈ order) : doc.toDraft.ParentsFirst order := by
  have hplaced := doc.placed_nodes
  have hindex : ∀ id ∈ doc.ids, ∃ i, doc.graph.id i = id := by
    intro id hid
    rw [← doc.ids_placed] at hid
    exact Draft.exists_index hid
  refine ⟨?_, ?_⟩
  · apply (List.perm_ext_iff_of_nodup h.nodup doc.distinct).2
    intro id
    constructor
    · intro hid
      obtain ⟨i, rfl⟩ := h.exists_of_mem hid
      exact List.mem_map_of_mem (hplaced.described_graph i)
    · intro hid
      obtain ⟨i, rfl⟩ := hindex id hid
      exact hall i
  · intro a b hab
    obtain ⟨node, hnode, rfl, -⟩ := id hab
    obtain ⟨i, hi⟩ := hindex node.id (List.mem_map_of_mem hnode)
    rw [← hi] at hab ⊢
    obtain ⟨c, hc, rfl⟩ := hplaced.exists_child doc.distinct hab
    exact h.sublist hplaced.injective (hall i) hc

/-- A document gives its graph if nothing in it depends on itself, and then its ids can be ordered with
parents first; otherwise it gives a circuit. -/
theorem build_spec (doc : Document) :
    (doc.toDraft.Acyclic ∧ (∃ order, doc.toDraft.ParentsFirst order) ∧
      doc.build = .ok ⟨doc.graph, doc.rootIndex⟩ ∧ doc.graph.Realizes doc.rootIndex doc.toDraft) ∨
    (¬ doc.toDraft.Acyclic ∧ ∃ path, doc.build = .error (.cycle path) ∧
      Graph.IsCircuit doc.toDraft.DependsOn path) := by
  have hplaced := doc.placed_nodes
  rcases Graph.findCycle?_spec hplaced.injective fun j c hc => hplaced.dependsOn hc with
    ⟨hnone, order, hfinished, hall⟩ | ⟨path, i, hsome, hcircuit, hcycle⟩
  · have horder := doc.parentsFirst_of_finished hfinished hall
    refine .inl ⟨horder.acyclic doc.consistent, ⟨order, horder⟩, ?_, hplaced.realizes doc.id_rootIndex⟩
    have hnone : doc.graph.findCycle? = none := hnone
    rw [build, hnone]
  · refine .inr ⟨fun hacyclic => ?_, path, ?_, hcircuit⟩
    · exact hacyclic _ (hcycle.lift doc.graph.id fun j c hc => hplaced.dependsOn hc)
    · have hsome : doc.graph.findCycle? = some path := hsome
      rw [build, hsome]

end Document

/-- If nothing that is declared depends on itself, neither does a node of a graph that realizes the draft. -/
lemma Graph.Realizes.acyclic {g : Graph} {root : Fin g.size} {d : Draft} (h : g.Realizes root d) (hd : d.Acyclic) :
    g.Acyclic root := by
  intro i hi hcycle
  apply hd (g.id i)
  have hsteps : ∀ c, Relation.TransGen g.Child i c →
      g.Reaches root c ∧ Relation.TransGen d.DependsOn (g.id i) (g.id c) := by
    intro c hc
    induction hc with
    | single hc => exact ⟨hi.tail hc, .single ⟨_, h.described i hi, rfl, List.mem_map_of_mem hc⟩⟩
    | tail _ hc ih => exact ⟨ih.1.tail hc, ih.2.tail ⟨_, h.described _ ih.1, rfl, List.mem_map_of_mem hc⟩⟩
  exact (hsteps i hcycle).2

namespace Builder

/-- What the builder gives for a draft that was read, consistent or not. -/
lemma document_of_draft {entries : List (Datum × Datum)} {draft : Draft}
    (h : Draft.ofDatum (.map entries) = .ok draft) :
    (∃ doc : Document, doc.toDraft = draft ∧ document (.map entries) = doc.build) ∨
    (¬ draft.Consistent ∧ ∃ reason,
      document (.map entries) = .error (.malformed subject (.invalid [⟨[], .refused reason⟩]))) := by
  rcases draft.check_spec with ⟨-, doc, hcheck, hdoc⟩ | ⟨hnot, reason, hcheck⟩
  · refine .inl ⟨doc, hdoc, ?_⟩
    simp only [document, ofDatum, Document.ofDatum, h, hcheck]
  · refine .inr ⟨hnot, reason, ?_⟩
    simp only [document, ofDatum, Document.ofDatum, h, hcheck]
    rfl

/-- For every mapping that is read as a draft, the builder of documents gives a graph exactly if ids are
distinct, the root and all children are declared and nothing depends on itself, below the root or not. If ids
are wrong, the document is refused as malformed; if only a cycle is in the way, the error names one, from an
id along declared children back to it and to no other id twice. A graph that is given realizes the draft: it
has the root and, below it, one node for each id, with the children, in their order and number, the condition
and the expression that are declared; and validation finds neither shared ids nor a cycle. The order in which
nodes are made does not matter: parents can come first exactly if nothing depends on itself, and from the end
of any such order on the nodes can be made and realize the draft. -/
theorem document_spec {entries : List (Datum × Datum)} {draft : Draft}
    (h : Draft.ofDatum (.map entries) = .ok draft) :
    ((∃ g root, document (.map entries) = .ok ⟨g, root⟩) ↔ draft.Consistent ∧ draft.Acyclic) ∧
    (¬ draft.Consistent → ∃ reason,
      document (.map entries) = .error (.malformed subject (.invalid [⟨[], .refused reason⟩]))) ∧
    (draft.Consistent → ¬ draft.Acyclic → ∃ path,
      document (.map entries) = .error (.cycle path) ∧ Graph.IsCircuit draft.DependsOn path) ∧
    (∀ g root, document (.map entries) = .ok ⟨g, root⟩ → g.Realizes root draft ∧
      g.sharedIds (g.reachable root) = [] ∧ g.cycleIssue root = []) ∧
    (draft.Consistent → (draft.Acyclic ↔ ∃ order, draft.ParentsFirst order) ∧
      ∀ order, draft.ParentsFirst order →
        ∃ nodes root, draft.assemble order = some nodes ∧ (Graph.ofNodes nodes).Realizes root draft) := by
  rcases document_of_draft h with ⟨doc, rfl, hbuild⟩ | ⟨hnot, reason, herror⟩
  · have hconsistent := doc.consistent
    rw [hbuild]
    rcases doc.build_spec with ⟨hacyclic, horder, hok, hrealizes⟩ | ⟨hcyclic, path, herror, hcircuit⟩
    · rw [hok]
      refine ⟨iff_of_true ⟨_, _, rfl⟩ ⟨hconsistent, hacyclic⟩, fun hnot => absurd hconsistent hnot,
        fun _ hcyclic => absurd hacyclic hcyclic, ?_, fun _ => ⟨iff_of_true hacyclic horder, ?_⟩⟩
      · intro g root heq
        cases heq
        have hnocycle := Graph.acyclic_iff_explored hrealizes.distinct
        exact ⟨hrealizes, hrealizes.distinct.sharedIds_eq_nil,
          Graph.cycleIssue_eq_nil.2 (hnocycle.1 (hrealizes.acyclic hacyclic))⟩
      · exact fun order horder => Draft.assemble_realizes hconsistent horder
    · rw [herror]
      refine ⟨iff_of_false nofun fun hboth => hcyclic hboth.2, fun hnot => absurd hconsistent hnot,
        fun _ _ => ⟨path, rfl, hcircuit⟩, nofun, fun _ => ⟨iff_of_false hcyclic ?_, ?_⟩⟩
      · exact fun ⟨order, horder⟩ => hcyclic (horder.acyclic hconsistent)
      · exact fun order horder => Draft.assemble_realizes hconsistent horder
  · rw [herror]
    exact ⟨iff_of_false nofun fun hboth => hnot hboth.1, fun _ => ⟨reason, rfl⟩,
      fun hconsistent => absurd hconsistent hnot, nofun, fun hconsistent => absurd hconsistent hnot⟩

/-- The theorem applies, for example, to a root without children beside a node that is its own child: the root has
nothing to do with the cycle, but the document is refused. -/
theorem document_spec_loop : ∃ entries draft, Draft.ofDatum (.map entries) = .ok draft ∧ draft.root = "r" ∧
    draft.ids = ["r", "c"] ∧ ∃ path, document (.map entries) = .error (.cycle path) := by
  have hread : Draft.ofDatum (.map [(.text "root", .text "r"), (.text "nodes", .list [
      .map [(.text "id", .text "r"), (.text "reliability_expression", .text "1")],
      .map [(.text "id", .text "c"), (.text "reliability_expression", .text "c"),
        (.text "children", .list [.text "c"])]])]) =
      .ok ⟨"r", [⟨"r", [], .formula "true", .datum (.text "1")⟩,
        ⟨"c", ["c"], .formula "true", .datum (.text "c")⟩]⟩ := by
    rfl
  obtain ⟨_, _, hcycle, _, _⟩ := document_spec hread
  refine ⟨_, _, hread, rfl, rfl, ?_⟩
  apply (hcycle ⟨by decide, by decide, by decide⟩ _).imp
  · exact fun path hpath => hpath.1
  · intro hacyclic
    apply hacyclic "c"
    exact .single ⟨⟨"c", ["c"], .formula "true", .datum (.text "c")⟩, by simp, rfl, List.mem_singleton_self "c"⟩

end Builder

end ProductLine
