import Mathlib.Tactic.Common
import ProductLine.Graph.Validation
import ProductLine.Proofs.Graph.Reachability

/-!
# Searches in depth

A recursion that stops at an id that is done and finishes a node after all its children finishes nodes in one
order (`Graph.PostOrder`). A search in depth is such a recursion that never comes to an id that it is below
(`Graph.Explored`). The validator finds no cycle exactly if such a search is possible (`closingEdge?_eq_none`), and
if ids are distinct it is possible exactly if no node below the root depends on itself (`acyclic_iff_explored`).
-/

namespace ProductLine

namespace Graph

variable {g : Graph} {path done : List String} {i : Fin g.size} {nodes rest order : List (Fin g.size)}

/-- The nodes that a memoizing recursion finishes for several nodes one after the other, in the order in which
they are finished, given the ids that are done. -/
inductive PostOrder (g : Graph) : List String → List (Fin g.size) → List (Fin g.size) → Prop where
  | nil {done : List String} :
    PostOrder g done [] []
  | seen {done : List String} {i : Fin g.size} {rest order : List (Fin g.size)} (hi : g.id i ∈ done)
      (hrest : PostOrder g done rest order) :
    PostOrder g done (i :: rest) order
  | new {done : List String} {i : Fin g.size} {rest below order : List (Fin g.size)} (hi : g.id i ∉ done)
      (hbelow : PostOrder g done (g.children i) below)
      (hrest : PostOrder g (done ++ (below ++ [i]).map g.id) rest order) :
    PostOrder g done (i :: rest) (below ++ [i] ++ order)

/-- The same for a recursion that is below the ids of a path and comes to none of them. -/
inductive Explored (g : Graph) : List String → List String → List (Fin g.size) → List (Fin g.size) → Prop where
  | nil {path done : List String} :
    Explored g path done [] []
  | seen {path done : List String} {i : Fin g.size} {rest order : List (Fin g.size)} (hi : g.id i ∈ done)
      (hrest : Explored g path done rest order) :
    Explored g path done (i :: rest) order
  | new {path done : List String} {i : Fin g.size} {rest below order : List (Fin g.size)} (hi : g.id i ∉ done)
      (hpath : g.id i ∉ path) (hbelow : Explored g (path ++ [g.id i]) done (g.children i) below)
      (hrest : Explored g path (done ++ (below ++ [i]).map g.id) rest order) :
    Explored g path done (i :: rest) (below ++ [i] ++ order)

/-- Whether no id is done that a search is below. -/
def Apart (path done : List String) : Prop := ∀ id ∈ path, id ∉ done

/-- Ids that are done after others are apart from the path if all are. -/
lemma Apart.append {ids : List String} (h : Apart path done) (hids : Apart path ids) :
    Apart path (done ++ ids) := by
  intro id hid hmem
  rcases List.mem_append.1 hmem with hmem | hmem
  · exact h id hid hmem
  · exact hids id hid hmem

/-- An id that is not done may be put on the path. -/
lemma Apart.push {id : String} (h : Apart path done) (hid : id ∉ done) : Apart (path ++ [id]) done := by
  intro other hother hmem
  rcases List.mem_append.1 hother with hother | hother
  · exact h other hother hmem
  · obtain rfl := List.mem_singleton.1 hother
    exact hid hmem

/-- What holds for a search that is below a node on a longer path, and for one with any ids done and fewer nodes to
go through, holds for all searches, as the path cannot grow for ever. -/
@[elab_as_elim]
theorem search_induction {motive : List String → List String → List (Fin g.size) → Prop}
    (nil : ∀ path done, motive path done [])
    (seen : ∀ path done i rest, g.id i ∈ done → motive path done rest → motive path done (i :: rest))
    (closing : ∀ path done i rest, g.id i ∉ done → g.id i ∈ path → motive path done (i :: rest))
    (new : ∀ path done i rest, g.id i ∉ done → g.id i ∉ path → motive (path ++ [g.id i]) done (g.children i) →
      (∀ done', motive path done' rest) → motive path done (i :: rest))
    (path done : List String) (nodes : List (Fin g.size)) : motive path done nodes := by
  match nodes with
  | [] => exact nil path done
  | i :: rest =>
    by_cases hi : g.id i ∈ done
    · exact seen path done i rest hi (search_induction nil seen closing new path done rest)
    · by_cases hpath : g.id i ∈ path
      · exact closing path done i rest hi hpath
      · exact new path done i rest hi hpath
          (search_induction nil seen closing new (path ++ [g.id i]) done (g.children i))
          fun done' => search_induction nil seen closing new path done' rest
termination_by (g.unseen g.id path, nodes.length)
decreasing_by
  · exact Prod.Lex.right _ (Nat.lt_succ_self _)
  · exact Prod.Lex.left _ _ (g.unseen_lt g.id hpath (by simp) fun _ hk => by simp [hk])
  · exact Prod.Lex.right _ (Nat.lt_succ_self _)

namespace PostOrder

/-- There is only one such order. -/
theorem unique {order' : List (Fin g.size)} (h : g.PostOrder done nodes order)
    (h' : g.PostOrder done nodes order') : order = order' := by
  induction h generalizing order' with
  | nil =>
    cases h'
    rfl
  | seen hi _ ih =>
    cases h' with
    | seen _ hrest' => exact ih hrest'
    | new hi' => exact absurd hi hi'
  | new hi _ _ ihbelow ihrest =>
    cases h' with
    | seen hi' => exact absurd hi' hi
    | new _ hbelow' hrest' =>
      obtain rfl := ihbelow hbelow'
      obtain rfl := ihrest hrest'
      rfl

/-- In the end all nodes are done. -/
lemma mem_done (h : g.PostOrder done nodes order) : ∀ i ∈ nodes, g.id i ∈ done ++ order.map g.id := by
  induction h with
  | nil => simp
  | seen hi _ ih =>
    intro j hj
    rcases List.mem_cons.1 hj with rfl | hj
    · exact List.mem_append_left _ hi
    · exact ih j hj
  | @new done i rest below order hi _ _ _ ihrest =>
    intro j hj
    rw [List.map_append, ← List.append_assoc]
    rcases List.mem_cons.1 hj with rfl | hj
    · simp
    · exact ihrest j hj

end PostOrder

namespace Explored

/-- A search that finishes is a search in post-order. -/
lemma postOrder (h : g.Explored path done nodes order) : g.PostOrder done nodes order := by
  induction h with
  | nil => exact .nil
  | seen hi _ ih => exact .seen hi ih
  | new hi _ _ _ ihbelow ihrest => exact .new hi ihbelow ihrest

/-- A search finishes in one order only. -/
lemma unique {order' : List (Fin g.size)} (h : g.Explored path done nodes order)
    (h' : g.Explored path done nodes order') : order = order' :=
  h.postOrder.unique h'.postOrder

/-- A search comes to no id that it is below. -/
lemma not_mem_path (h : g.Explored path done nodes order) : ∀ i ∈ order, g.id i ∉ path := by
  induction h with
  | nil => simp
  | seen _ _ ih => exact ih
  | new _ hpath _ _ ihbelow ihrest =>
    intro j hj
    rcases List.mem_append.1 hj with hj | hj
    · rcases List.mem_append.1 hj with hj | hj
      · exact fun hmem => ihbelow j hj (List.mem_append_left _ hmem)
      · obtain rfl := List.mem_singleton.1 hj
        exact hpath
    · exact ihrest j hj

/-- No id on the path is among those that a search finishes. -/
lemma apart (h : g.Explored path done nodes order) : Apart path (order.map g.id) := by
  intro id hid hmem
  obtain ⟨i, hi, rfl⟩ := List.mem_map.1 hmem
  exact h.not_mem_path i hi hid

/-- After the nodes below one and then this node were searched, no id is done that the search is below. -/
lemma apart_finished {below : List (Fin g.size)} (hapart : Apart path done) (hpath : g.id i ∉ path)
    (hbelow : g.Explored (path ++ [g.id i]) done nodes below) : Apart path (done ++ (below ++ [i]).map g.id) := by
  refine hapart.append ?_
  rw [List.map_append]
  refine Apart.append (fun id hid => hbelow.apart id (List.mem_append_left _ hid)) ?_
  intro id hid hmem
  obtain rfl : id = g.id i := by simpa using hmem
  exact hpath hid

/-- A search at a node that is done goes on with the others. -/
lemma of_seen (hi : g.id i ∈ done) (h : g.Explored path done (i :: rest) order) :
    g.Explored path done rest order := by
  cases h with
  | seen _ hrest => exact hrest
  | new hnew => exact absurd hi hnew

/-- A search at a node that is not done searches the children first. -/
lemma of_new (hi : g.id i ∉ done) (h : g.Explored path done (i :: rest) order) :
    g.id i ∉ path ∧ ∃ below after, g.Explored (path ++ [g.id i]) done (g.children i) below ∧
      g.Explored path (done ++ (below ++ [i]).map g.id) rest after := by
  cases h with
  | seen hi' => exact absurd hi' hi
  | new _ hpath hbelow hrest => exact ⟨hpath, _, _, hbelow, hrest⟩

/-- If no id is done that a search is below, none of its nodes has one. -/
lemma not_mem_path_of_apart (hapart : Apart path done) (h : g.Explored path done nodes order) :
    ∀ i ∈ nodes, g.id i ∉ path := by
  intro i hi hmem
  exact hapart.append h.apart _ hmem (h.postOrder.mem_done i hi)

/-- Nodes that are done may be left out from the beginning. -/
lemma filter_iff {known : List String} (hknown : ∀ id ∈ known, id ∈ done) :
    g.Explored path done (nodes.filter (g.id · ∉ known)) order ↔ g.Explored path done nodes order := by
  induction nodes generalizing done order with
  | nil => rfl
  | cons i rest ih =>
    have hlater (ids : List String) : ∀ id ∈ known, id ∈ done ++ ids :=
      fun id hid => List.mem_append_left ids (hknown id hid)
    by_cases hi : g.id i ∈ known
    · rw [List.filter_cons_of_neg (by simpa using hi), ih hknown]
      constructor
      · exact .seen (hknown _ hi)
      · exact of_seen (hknown _ hi)
    · rw [List.filter_cons_of_pos (by simpa using hi)]
      constructor
      · intro h
        cases h with
        | seen hdone hrest => exact .seen hdone ((ih hknown).1 hrest)
        | new hnew hpath hbelow hrest => exact .new hnew hpath hbelow ((ih (hlater _)).1 hrest)
      · intro h
        cases h with
        | seen hdone hrest => exact .seen hdone ((ih hknown).2 hrest)
        | new hnew hpath hbelow hrest => exact .new hnew hpath hbelow ((ih (hlater _)).2 hrest)

end Explored

/-! The validator -/

section ClosingEdge

variable {colours : List (String × Colour)} {stack : List (Fin g.size × List (Fin g.size))} {c : Fin g.size}

/-- A node without further children becomes black. -/
lemma closingEdge_finished :
    g.closingEdge colours ((i, []) :: stack) = g.closingEdge ((g.id i, .black) :: colours) stack := by
  rw [closingEdge]

/-- A grey child closes a cycle. -/
lemma closingEdge_grey (h : colours.lookup (g.id c) = some .grey) :
    g.closingEdge colours ((i, c :: rest) :: stack) = some (g.id i, g.id c) := by
  rw [closingEdge]
  split <;> simp_all

/-- A black child is passed over. -/
lemma closingEdge_black (h : colours.lookup (g.id c) = some .black) :
    g.closingEdge colours ((i, c :: rest) :: stack) = g.closingEdge colours ((i, rest) :: stack) := by
  rw [closingEdge]
  split <;> simp_all

/-- A white child becomes grey, and its children come first. -/
lemma closingEdge_white (h : colours.lookup (g.id c) = none) :
    g.closingEdge colours ((i, c :: rest) :: stack) =
      g.closingEdge ((g.id c, .grey) :: colours) ((c, g.children c) :: (i, rest) :: stack) := by
  rw [closingEdge]
  split <;> simp_all

/-- Whether ids have the colours that they have in a search. -/
def Coloured (colours : List (String × Colour)) (path done : List String) : Prop :=
  ∀ id, colours.lookup id = if id ∈ path then some .grey else if id ∈ done then some .black else none

namespace Coloured

variable {id : String}

/-- A new id that becomes grey is on the path. -/
lemma push (h : Coloured colours path done) : Coloured ((id, .grey) :: colours) (path ++ [id]) done := by
  intro other
  rw [List.lookup_cons, h other]
  by_cases hid : other = id
  · simp [hid]
  · rw [beq_false_of_ne hid]
    simp [hid]

/-- The last id of the path that becomes black is done. -/
lemma pop (h : Coloured colours (path ++ [id]) done) (hid : id ∉ path) :
    Coloured ((id, .black) :: colours) path (done ++ [id]) := by
  intro other
  rw [List.lookup_cons, h other]
  by_cases hother : other = id
  · simp [hother, hid]
  · rw [beq_false_of_ne hother]
    simp [hother]

end Coloured

/-- The validator goes through the children of a node like a search: it comes to their end if the search is
possible, with all ids coloured that are done then, and finds a cycle if not. -/
theorem closingEdge_spec (parent : Fin g.size) (stack : List (Fin g.size × List (Fin g.size)))
    (path done : List String) (nodes : List (Fin g.size)) (hapart : Apart path done)
    (hcolours : Coloured colours path done) :
    (∃ order colours', g.Explored path done nodes order ∧ Coloured colours' path (done ++ order.map g.id) ∧
      g.closingEdge colours ((parent, nodes) :: stack) = g.closingEdge colours' ((parent, []) :: stack)) ∨
    ((∀ order, ¬ g.Explored path done nodes order) ∧ g.closingEdge colours ((parent, nodes) :: stack) ≠ none) := by
  induction path, done, nodes using search_induction generalizing colours parent stack with
  | nil path done => exact .inl ⟨[], colours, .nil, by simpa using hcolours, rfl⟩
  | seen path done i rest hi ih =>
    have hblack : colours.lookup (g.id i) = some .black := by
      rw [hcolours, if_neg fun hpath => hapart _ hpath hi, if_pos hi]
    rw [closingEdge_black hblack]
    rcases ih parent stack hapart hcolours with ⟨order, colours', hrest, hcolours', heq⟩ | ⟨hrest, hsome⟩
    · exact .inl ⟨order, colours', .seen hi hrest, hcolours', heq⟩
    · exact .inr ⟨fun order h => hrest order (h.of_seen hi), hsome⟩
  | closing path done i rest hi hpath =>
    have hgrey : colours.lookup (g.id i) = some .grey := by rw [hcolours, if_pos hpath]
    rw [closingEdge_grey hgrey]
    exact .inr ⟨fun order h => (h.of_new hi).1 hpath, by simp⟩
  | new path done i rest hi hpath ihbelow ihrest =>
    have hwhite : colours.lookup (g.id i) = none := by rw [hcolours, if_neg hpath, if_neg hi]
    rw [closingEdge_white hwhite]
    rcases ihbelow i ((parent, rest) :: stack) (hapart.push hi) hcolours.push with
      ⟨below, colours', hbelow, hcolours', heq⟩ | ⟨hbelow, hsome⟩
    · -- the children are passed, so the node turns black and its siblings come next
      rw [heq, closingEdge_finished]
      have hpopped := hcolours'.pop hpath
      have hids : done ++ below.map g.id ++ [g.id i] = done ++ (below ++ [i]).map g.id := by simp
      rw [hids] at hpopped
      rcases ihrest _ parent stack (hbelow.apart_finished hapart hpath) hpopped with
        ⟨order, colours'', hrest, hcolours'', heq'⟩ | ⟨hrest, hsome⟩
      · refine .inl ⟨below ++ [i] ++ order, colours'', .new hi hpath hbelow hrest, ?_, heq'⟩
        rw [List.map_append, ← List.append_assoc]
        exact hcolours''
      · refine .inr ⟨fun order h => ?_, hsome⟩
        obtain ⟨_, below', after, hbelow', hafter⟩ := h.of_new hi
        obtain rfl := hbelow.unique hbelow'
        exact hrest _ hafter
    · refine .inr ⟨fun order h => ?_, hsome⟩
      obtain ⟨_, below', _, hbelow', _⟩ := h.of_new hi
      exact hbelow _ hbelow'

end ClosingEdge

/-- The validator finds no cycle exactly if a search from the root is possible. -/
theorem cycleIssue_eq_nil {root : Fin g.size} :
    g.cycleIssue root = [] ↔ ∃ order, g.Explored [] [] [root] order := by
  have hcolours : Coloured [(g.id root, .grey)] ([] ++ [g.id root]) [] := Coloured.push fun id => by simp
  have hcycle : g.cycleIssue root = [] ↔ g.closingEdge? root = none := by
    rw [cycleIssue]
    split <;> simp_all
  rw [hcycle, closingEdge?]
  rcases closingEdge_spec root [] _ [] (g.children root) (by simp [Apart]) hcolours with
    ⟨below, colours', hbelow, _, heq⟩ | ⟨hbelow, hsome⟩
  · rw [heq, closingEdge_finished, closingEdge]
    exact iff_of_true rfl ⟨_, .new (by simp) (by simp) hbelow .nil⟩
  · refine iff_of_false hsome ?_
    rintro ⟨order, h⟩
    obtain ⟨_, below, _, h, _⟩ := h.of_new (by simp)
    exact hbelow below h

/-! Searches and cycles -/

/-- A node below one from which no endless path starts is such a node, too. -/
lemma acc_of_reaches {root : Fin g.size} (h : Acc (Function.swap g.Child) root) (hi : g.Reaches root i) :
    Acc (Function.swap g.Child) i := by
  induction hi with
  | refl => exact h
  | tail _ hc ih => exact ih.inv hc

/-- A node from which one cannot go on for ever does not depend on itself. -/
lemma not_transGen_of_acc (h : Acc (Function.swap g.Child) i) : ¬ Relation.TransGen g.Child i i := by
  have hacc := h.transGen
  clear h
  induction hacc with
  | intro i _ ih => exact fun hcycle => ih i hcycle.swap hcycle

/-- In a search that is possible, one cannot go on for ever from a node that is done. -/
lemma Explored.acc {root : Fin g.size} (hdistinct : g.DistinctIds root) (hnodes : ∀ i ∈ nodes, g.Reaches root i)
    (hdone : ∀ i, g.Reaches root i → g.id i ∈ done → Acc (Function.swap g.Child) i)
    (h : g.Explored path done nodes order) :
    ∀ i, g.Reaches root i → g.id i ∈ done ++ order.map g.id → Acc (Function.swap g.Child) i := by
  induction h with
  | nil => simpa using hdone
  | seen hi _ ih => exact ih (fun j hj => hnodes j (List.mem_cons_of_mem _ hj)) hdone
  | @new path done i rest below order hi hpath hbelow hrest ihbelow ihrest =>
    have hroot := hnodes i List.mem_cons_self
    have hacc := ihbelow (fun c hc => hroot.tail hc) hdone
    -- all children are done by now
    have hnode : Acc (Function.swap g.Child) i :=
      .intro i fun c hc => hacc c (hroot.tail hc) (hbelow.postOrder.mem_done c hc)
    rw [List.map_append, ← List.append_assoc]
    refine ihrest (fun j hj => hnodes j (List.mem_cons_of_mem _ hj)) fun j hj hmem => ?_
    rw [List.map_append, ← List.append_assoc] at hmem
    rcases List.mem_append.1 hmem with hmem | hmem
    · exact hacc j hj hmem
    · obtain rfl := hdistinct j i hj hroot (by simpa using hmem)
      exact hnode

/-- No endless path starts at a root from which the search finishes. -/
lemma Explored.acc_root {root : Fin g.size} (hdistinct : g.DistinctIds root) (h : g.Explored [] [] [root] order) :
    Acc (Function.swap g.Child) root := by
  refine h.acc hdistinct ?_ (by simp) root .refl (h.postOrder.mem_done root List.mem_cons_self)
  intro j hj
  obtain rfl := List.mem_singleton.1 hj
  exact .refl

/-- A search is possible, or a node stands on a trail to itself. -/
lemma explored_or_trail {root : Fin g.size} (path done : List String) (nodes : List (Fin g.size))
    {trail : List (Fin g.size)} (htrail : ∀ i ∈ nodes, g.Trail root trail i) (hpath : trail.map g.id = path) :
    (∃ order, g.Explored path done nodes order) ∨
      ∃ trail i, g.Trail root trail i ∧ g.id i ∈ trail.map g.id := by
  induction path, done, nodes using search_induction generalizing trail with
  | nil path done => exact .inl ⟨[], .nil⟩
  | seen path done i rest hi ih =>
    rcases ih (fun j hj => htrail j (List.mem_cons_of_mem i hj)) hpath with ⟨order, hrest⟩ | hclosed
    · exact .inl ⟨order, .seen hi hrest⟩
    · exact .inr hclosed
  | closing path done i rest hi hmem => exact .inr ⟨trail, i, htrail i List.mem_cons_self, by rwa [hpath]⟩
  | new path done i rest hi hmem ihbelow ihrest =>
    have hnext (c : Fin g.size) (hc : c ∈ g.children i) := (htrail i List.mem_cons_self).next hc
    rcases ihbelow hnext (by simp [hpath]) with ⟨below, hbelow⟩ | hclosed
    · rcases ihrest _ (fun j hj => htrail j (List.mem_cons_of_mem i hj)) hpath with ⟨order, hrest⟩ | hclosed
      · exact .inl ⟨_, .new hi hmem hbelow hrest⟩
      · exact .inr hclosed
    · exact .inr hclosed

/-- If ids are distinct, the nodes below a root can be searched exactly if none of them depends on itself. -/
theorem acyclic_iff_explored {root : Fin g.size} (hdistinct : g.DistinctIds root) :
    g.Acyclic root ↔ ∃ order, g.Explored [] [] [root] order := by
  constructor
  · intro hacyclic
    rcases explored_or_trail [] [] [root] Trail.of_root rfl with hsearch | ⟨trail, i, htrail, hmem⟩
    · exact hsearch
    · exact absurd hacyclic (htrail.not_acyclic hdistinct hmem)
  · rintro ⟨order, h⟩ i hi hcycle
    exact not_transGen_of_acc (acc_of_reaches (h.acc_root hdistinct) hi) hcycle

/-- If ids are distinct and no node depends on itself, one cannot go on for ever from a node below the root. -/
lemma Acyclic.acc {root : Fin g.size} (h : g.Acyclic root) (hdistinct : g.DistinctIds root)
    (hi : g.Reaches root i) : Acc (Function.swap g.Child) i := by
  obtain ⟨order, hsearch⟩ := (acyclic_iff_explored hdistinct).1 h
  exact acc_of_reaches (hsearch.acc_root hdistinct) hi

end Graph

end ProductLine
