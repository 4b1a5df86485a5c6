import Mathlib.Tactic.Common
import ProductLine.Proofs.Session.Revision

/-!
# Children in another order

A node is computed from its children by their ids, so the order in which it lists them shows at most in the
message of an error. In a graph whose children are listed otherwise, every node has the reliability that it
had (`Graph.toOption_valueAt_rearrange`), or has none, as before.
-/

namespace ProductLine

/-- A function of a result applies to what is there of it. -/
lemma toOption_map {α β : Type} (f : α → β) (x : Except Error α) : (x.map f).toOption = x.toOption.map f := by
  cases x <;> rfl

/-- Arithmetic on numbers that are the same where there are any has the same result if it has any. -/
lemma Expression.toOption_scalar {owner : Owner} {value value' : String → Except Error Binary64}
    (h : ∀ name, (value name).toOption = (value' name).toOption) (e : Expression) :
    (e.scalar owner value).toOption = (e.scalar owner value').toOption := by
  induction e with
  | int n => rfl
  | float v => rfl
  | name text => exact h text
  | neg e ih => rw [scalar, scalar, toOption_map, toOption_map, ih]
  | pos e ih => exact ih
  | binary op left right ihl ihr =>
    rw [scalar, scalar]
    generalize left.scalar owner value = x at ihl
    generalize left.scalar owner value' = x' at ihl
    generalize right.scalar owner value = y at ihr
    generalize right.scalar owner value' = y' at ihr
    cases x <;> cases x' <;> cases y <;> cases y' <;> simp_all [Except.toOption]

namespace Graph

/-- A graph with the children of its nodes given otherwise. -/
abbrev rearrange (g : Graph) (children : Fin g.size → List (Fin g.size)) : Graph :=
  ⟨g.size, Vector.ofFn fun i => (g.node i).withChildren (children i)⟩

variable {g : Graph} {children : Fin g.size → List (Fin g.size)} {root i j : Fin g.size}

/-- A node whose children are listed otherwise is the same node with these children. -/
lemma node_rearrange : (g.rearrange children).node i = (g.node i).withChildren (children i) := by
  simp [node, rearrange]

/-- A node whose children are listed otherwise keeps its id. -/
lemma id_rearrange : (g.rearrange children).id i = g.id i := by
  rw [id, node_rearrange]
  rfl

/-- The ids of nodes stay when children are listed otherwise. -/
lemma ids_rearrange : (g.rearrange children).id = g.id := by
  funext i
  exact id_rearrange

/-- The children are those that are listed instead. -/
lemma children_rearrange : (g.rearrange children).children i = children i := by
  rw [Graph.children, node_rearrange]
  rfl

/-- Whether nodes are present does not depend on how children are listed. -/
lemma presentAt_rearrange : (g.rearrange children).presentAt = g.presentAt := by
  funext space x c
  rw [presentAt, node_rearrange]
  rfl

section Perm

variable (hperm : ∀ i, (children i).Perm (g.children i))

include hperm

/-- The same nodes are children of a node when they are listed otherwise. -/
lemma child_rearrange : (g.rearrange children).Child = g.Child := by
  funext i c
  rw [Child, Child, children_rearrange, (hperm i).mem_iff]

/-- The same nodes can be reached when children are listed otherwise. -/
lemma reaches_rearrange : (g.rearrange children).Reaches = g.Reaches := by
  rw [Reaches, Reaches, child_rearrange hperm]

/-- A graph stays well-formed when children are listed otherwise. -/
lemma WellFormed.rearrange (hg : g.WellFormed root) : (g.rearrange children).WellFormed root := by
  constructor
  · intro i hi
    rw [reaches_rearrange hperm] at hi
    rw [child_rearrange hperm]
    exact hg.acyclic i hi
  · intro i j hi hj hid
    rw [reaches_rearrange hperm] at hi hj
    rw [id_rearrange, id_rearrange] at hid
    exact hg.distinct i j hi hj hid
  · intro i hi
    rw [reaches_rearrange hperm] at hi
    rw [node_rearrange]
    exact hg.presence i hi

/-- A name stands for the same child in whatever order the children are listed. -/
lemma find?_rearrange (hg : g.WellFormed root) (hi : g.Reaches root i) (name : String) :
    (children i).find? (g.id · = name) = (g.children i).find? (g.id · = name) := by
  cases hfind : (g.children i).find? (g.id · = name) with
  | none =>
    rw [List.find?_eq_none] at hfind ⊢
    exact fun c hc => hfind c ((hperm i).mem_iff.1 hc)
  | some c =>
    have hc := List.mem_of_find?_eq_some hfind
    have hid : g.id c = name := by simpa using List.find?_some hfind
    have hchild : ((g.rearrange children).children i).find?
        ((g.rearrange children).id · = (g.rearrange children).id c) = some c := by
      apply (hg.rearrange hperm).find?_child
      · rwa [reaches_rearrange hperm]
      · rw [children_rearrange]
        exact (hperm i).mem_iff.2 hc
    simpa only [children_rearrange, id_rearrange, hid] using hchild

/-- A node has the same reliability in whatever order children are listed. -/
theorem toOption_valueAt_rearrange {checker : Checker} {owner : Owner} {valid : Binary64}
    {present : Fin g.size → Except Error Binary64} {path : List (Fin g.size)} (hg : g.WellFormed root)
    (hi : g.Reaches root i) :
    ((g.rearrange children).valueAt checker owner valid present path i).toOption =
      (g.valueAt checker owner valid present path i).toOption := by
  -- by induction on the nodes off the path, over which the recursion goes
  induction hn : g.unseen (fun j => j) path using Nat.strong_induction_on generalizing path i with
  | _ n ih =>
    by_cases hmem : i ∈ path
    · rw [valueAt, dif_pos hmem, valueAt, dif_pos hmem]
      rfl
    · have hbelow (c : Fin g.size) (hc : c ∈ g.children i) :
          ((g.rearrange children).childAt checker owner valid present (i :: path) c).toOption =
            (g.childAt checker owner valid present (i :: path) c).toOption := by
        have hlt : g.unseen (fun j => j) (i :: path) < n := by
          rw [← hn]
          exact g.unseen_lt (fun j => j) hmem List.mem_cons_self fun _ hk => List.mem_cons_of_mem _ hk
        have hvalue := ih _ hlt (hi.tail hc) rfl
        rw [childAt, childAt]
        cases present c with
        | error e => rfl
        | ok p => rw [toOption_map, toOption_map, hvalue]
      have hmodel : ((g.rearrange children).node i).model = (g.node i).model := by
        rw [node_rearrange]
        rfl
      cases hchecker : checker (g.node i).model with
      | error e => rw [valueAt, dif_neg hmem, valueAt, dif_neg hmem, hmodel, hchecker]
      | ok text =>
        have hchecker' : checker ((g.rearrange children).node i).model = .ok text := by rw [hmodel, hchecker]
        cases hparse : Expression.parse text with
        | error e => simp only [valueAt, dif_neg hmem, hchecker, hchecker', hparse]
        | ok expression =>
          rw [valueAt_eq (g := g.rearrange children) hmem hchecker' hparse, valueAt_eq hmem hchecker hparse,
            toOption_map, toOption_map]
          refine congrArg (Option.map _) (Expression.toOption_scalar (fun name => ?_) expression)
          have hfind : ((g.rearrange children).children i).find? ((g.rearrange children).id · = name) =
              (g.children i).find? (g.id · = name) := by
            simp only [children_rearrange, id_rearrange, find?_rearrange hperm hg hi name]
          rw [hfind]
          cases hchild : (g.children i).find? (g.id · = name) with
          | none => rfl
          | some c => exact hbelow c (List.mem_of_find?_eq_some hchild)

/-- It has it, or has none. -/
lemma valueAt_rearrange_eq_ok {checker : Checker} {owner : Owner} {valid v : Binary64}
    {present : Fin g.size → Except Error Binary64} {path : List (Fin g.size)} (hg : g.WellFormed root)
    (hi : g.Reaches root i) :
    (g.rearrange children).valueAt checker owner valid present path i = .ok v ↔
      g.valueAt checker owner valid present path i = .ok v := by
  have hok (x : Except Error Binary64) : x = .ok v ↔ x.toOption = some v := by
    cases x <;> simp [Except.toOption]
  rw [hok, hok, toOption_valueAt_rearrange hperm hg hi]

end Perm

end Graph

/-! Diagrams and success -/

section

variable {checker : Checker} {valid : Diagram} {g : Graph} {children : Fin g.size → List (Fin g.size)}
  {root i : Fin g.size} {space : FeatureSpace} (hperm : ∀ i, (children i).Perm (g.children i))
  (hg : g.WellFormed root) (hi : g.Reaches root i)

include hperm hg hi

/-- Right diagrams of a node are the same in whatever order children are listed. -/
lemma Session.right_rearrange {d : Diagram} :
    Session.Right checker valid (g.rearrange children) space i d ↔ Session.Right checker valid g space i d := by
  have hvalue (later : FeatureSpace) (x : String → Bool) (path : List (Fin g.size)) :
      (g.rearrange children).valueAt checker valid.owner (valid.evaluate later x)
          ((g.rearrange children).presentAt later x) path i = .ok (d.evaluate later x) ↔
        g.valueAt checker valid.owner (valid.evaluate later x) (g.presentAt later x) path i =
          .ok (d.evaluate later x) := by
    rw [Graph.presentAt_rearrange, Graph.valueAt_rearrange_eq_ok hperm hg hi]
  constructor
  · rintro ⟨hwf, hright⟩
    refine ⟨hwf, fun later hlater x path hpath => (hvalue later x path).1 (hright later hlater x path ?_)⟩
    rwa [Graph.reaches_rearrange hperm]
  · rintro ⟨hwf, hright⟩
    refine ⟨hwf, fun later hlater x path hpath => (hvalue later x path).2 (hright later hlater x path ?_)⟩
    rwa [Graph.reaches_rearrange hperm] at hpath

/-- A node is evaluable in whatever order children are listed. -/
lemma Graph.evaluable_rearrange :
    (g.rearrange children).Evaluable checker valid space i ↔ g.Evaluable checker valid space i := by
  have hvalue {j : Fin g.size} (hj : g.Reaches i j) (later : FeatureSpace) (x : String → Bool) (v : Binary64) :
      (g.rearrange children).valueAt checker valid.owner (valid.evaluate later x)
          ((g.rearrange children).presentAt later x) [] j = .ok v ↔
        g.valueAt checker valid.owner (valid.evaluate later x) (g.presentAt later x) [] j = .ok v := by
    rw [presentAt_rearrange, valueAt_rearrange_eq_ok hperm hg (hi.trans hj)]
  have husable (c : Fin g.size) :
      ((g.rearrange children).node c).presence.Usable space.owner ↔ (g.node c).presence.Usable space.owner := by
    rw [node_rearrange]
    rfl
  constructor
  · rintro ⟨hpresence, hvalues⟩
    rw [child_rearrange hperm] at hpresence
    rw [reaches_rearrange hperm] at hvalues
    refine ⟨fun c hc => (husable c).1 (hpresence c hc), fun j hj later hlater x => ?_⟩
    obtain ⟨v, hv⟩ := hvalues j hj later hlater x
    exact ⟨v, (hvalue hj later x v).1 hv⟩
  · rintro ⟨hpresence, hvalues⟩
    refine ⟨?_, ?_⟩
    · rw [child_rearrange hperm]
      exact fun c hc => (husable c).2 (hpresence c hc)
    · rw [reaches_rearrange hperm]
      intro j hj later hlater x
      obtain ⟨v, hv⟩ := hvalues j hj later hlater x
      exact ⟨v, (hvalue hj later x v).2 hv⟩

end

end ProductLine
