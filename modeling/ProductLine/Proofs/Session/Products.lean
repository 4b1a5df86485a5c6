import Mathlib.Tactic.Common
import ProductLine.Proofs.Expression.Pointwise
import ProductLine.Proofs.Graph.Reachability
import ProductLine.Proofs.Session.Presence

/-!
# Families and products

The reliability of a node at one product can be computed on numbers alone, by recursion over the graph
(`Graph.valueAt`). The diagram that an evaluation returns for the whole family has this value at every product
(`valueAt_of_evaluateNode`). What carries the proof is that every cached diagram of a node below the root is
right in this sense (`Right`), also after more features were declared.
-/

namespace ProductLine

/-- Which nodes a product includes, as the values of their presence conditions. -/
def Graph.presentAt (g : Graph) (space : FeatureSpace) (x : String → Bool) (c : Fin g.size) :
    Except Error Binary64 :=
  (g.node c).presence.valueAt space x

/-- The reliability of a node at one product: the value of its expression, where each child stands for its own
reliability times the value of its presence condition, times the value of the feature model. The nodes on the
path wait for the value; one that waits for itself has none. -/
def Graph.valueAt (g : Graph) (checker : Checker) (owner : Owner) (valid : Binary64)
    (present : Fin g.size → Except Error Binary64) (path : List (Fin g.size)) (i : Fin g.size) :
    Except Error Binary64 :=
  if _ : i ∈ path then .error (.cycle ((path.reverse ++ [i]).map g.id))
  else
    match checker (g.node i).model with
    | .error e => .error e
    | .ok text =>
      match Expression.parse text with
      | .error e => .error e
      | .ok expression =>
        (expression.scalar owner fun name =>
          match (g.children i).find? (g.id · = name) with
          | none => .error (.unbound name ((g.children i).map g.id))
          | some c =>
            match present c with
            | .error e => .error e
            | .ok p => (valueAt g checker owner valid present (i :: path) c).map (owner.product p)).map
          (owner.product valid)
termination_by g.unseen (fun j => j) path
decreasing_by
  exact g.unseen_lt (fun j => j) ‹_› List.mem_cons_self fun _ hk => List.mem_cons_of_mem _ hk

section ValueAt

variable {g : Graph} {checker : Checker} {owner : Owner} {valid : Binary64}
  {present : Fin g.size → Except Error Binary64} {path : List (Fin g.size)} {i : Fin g.size}

/-- What a child stands for at one product in the expression of a node that depends on it. -/
def Graph.childAt (g : Graph) (checker : Checker) (owner : Owner) (valid : Binary64)
    (present : Fin g.size → Except Error Binary64) (path : List (Fin g.size)) (c : Fin g.size) :
    Except Error Binary64 :=
  match present c with
  | .error e => .error e
  | .ok p => (g.valueAt checker owner valid present path c).map (owner.product p)

/-- The reliability at one product of a node off the path whose expression is known. -/
lemma Graph.valueAt_eq (hi : i ∉ path) {text : String} (hchecker : checker (g.node i).model = .ok text)
    {expression : Expression} (hparse : Expression.parse text = .ok expression) :
    g.valueAt checker owner valid present path i =
      (expression.scalar owner fun name =>
        match (g.children i).find? (g.id · = name) with
        | none => .error (.unbound name ((g.children i).map g.id))
        | some c => g.childAt checker owner valid present (i :: path) c).map (owner.product valid) := by
  rw [valueAt, dif_neg hi, hchecker]
  simp only [hparse]
  rfl

/-- A node that only names one of its children has the reliability of the child as a child, times the value of the
feature model. -/
lemma Graph.valueAt_name (hi : i ∉ path) {text : String} (hchecker : checker (g.node i).model = .ok text)
    {c : Fin g.size} (hparse : Expression.parse text = .ok (.name (g.id c))) (hchildren : g.children i = [c]) :
    g.valueAt checker owner valid present path i =
      (g.childAt checker owner valid present (i :: path) c).map (owner.product valid) := by
  have hfind : (g.children i).find? (g.id · = g.id c) = some c := by simp [hchildren]
  rw [valueAt_eq hi hchecker hparse, Expression.scalar, hfind]

/-- The reliability of a node is decided by the presence conditions of the nodes below it, not by its own. -/
theorem Graph.valueAt_congr {present' : Fin g.size → Except Error Binary64}
    (h : ∀ c, Relation.TransGen g.Child i c → present c = present' c) :
    g.valueAt checker owner valid present path i = g.valueAt checker owner valid present' path i := by
  -- by induction on the nodes off the path, over which the recursion goes
  induction hn : g.unseen (fun j => j) path using Nat.strong_induction_on generalizing path i with
  | _ n ih =>
    by_cases hi : i ∈ path
    · rw [valueAt, dif_pos hi, valueAt, dif_pos hi]
    · have hbelow (c : Fin g.size) (hc : c ∈ g.children i) :
          g.childAt checker owner valid present (i :: path) c =
            g.childAt checker owner valid present' (i :: path) c := by
        have hlt : g.unseen (fun j => j) (i :: path) < n := by
          rw [← hn]
          exact g.unseen_lt (fun j => j) hi List.mem_cons_self fun _ hk => List.mem_cons_of_mem _ hk
        rw [childAt, childAt, h c (.single hc), ih _ hlt (fun d hd => h d (.head hc hd)) rfl]
      cases hchecker : checker (g.node i).model with
      | error e => rw [valueAt, dif_neg hi, valueAt, dif_neg hi, hchecker]
      | ok text =>
        cases hparse : Expression.parse text with
        | error e => simp only [valueAt, dif_neg hi, hchecker, hparse]
        | ok expression =>
          rw [valueAt_eq hi hchecker hparse, valueAt_eq hi hchecker hparse]
          congr 2
          funext name
          cases hfind : (g.children i).find? (g.id · = name) with
          | none => rfl
          | some c => exact hbelow c (List.mem_of_find?_eq_some hfind)

end ValueAt

namespace Expression.Bindings

/-- The first binding comes before all others. -/
lemma get?_cons (bindings : Bindings) (name text : String) (value : Operand) :
    get? ((name, value) :: bindings) text = if text = name then some value else bindings.get? text := by
  by_cases h : text = name
  · simp [get?, h]
  · simp [get?, List.lookup_cons, beq_eq_false_iff_ne.2 h, h]

/-- Replacing what a name is bound to changes nothing for the other names. -/
lemma get?_replace (bindings : Bindings) (name text : String) (value : Operand) :
    get? (bindings.map fun b => if b.1 = name then (name, value) else b) text =
      if text = name then (bindings.get? name).map fun _ => value else bindings.get? text := by
  induction bindings with
  | nil => simp [get?]
  | cons b bindings ih =>
    obtain ⟨bound, operand⟩ := b
    rw [List.map_cons, get?_cons, get?_cons]
    by_cases hbound : bound = name
    · rw [if_pos hbound, get?_cons, ih]
      by_cases htext : text = name
      · simp [htext, hbound]
      · simp [htext, hbound]
    · rw [if_neg hbound, get?_cons, ih]
      by_cases htext : text = name
      · simp [htext, Ne.symm hbound]
      · simp [htext]

/-- A name that is bound anew stands for its new operand, and the other names for what they stood for. -/
lemma get?_put (bindings : Bindings) (name text : String) (value : Operand) :
    (bindings.put name value).get? text = if text = name then some value else bindings.get? text := by
  by_cases hany : bindings.any (·.1 == name) = true
  · have hsome : (bindings.get? name).isSome = true := by
      obtain ⟨b, hb, hname⟩ := List.any_eq_true.1 hany
      rw [get?, List.lookup_isSome_iff]
      exact ⟨b, hb, beq_iff_eq.2 (beq_iff_eq.1 hname).symm⟩
    obtain ⟨operand, hoperand⟩ := Option.isSome_iff_exists.1 hsome
    rw [put, if_pos hany, get?_replace, hoperand]
    rfl
  · have hnone : bindings.get? name = none := by
      rw [get?, List.lookup_eq_none_iff]
      intro b hb
      have hb' : b.1 ≠ name := fun h => hany (List.any_eq_true.2 ⟨b, hb, by simpa using h⟩)
      simpa using hb'.symm
    have hlast : List.lookup text [(name, value)] = if text = name then some value else none :=
      get?_cons [] name text value
    rw [put, if_neg hany, get?, List.lookup_append, hlast]
    by_cases htext : text = name
    · rw [htext, ← get?, hnone]
      simp
    · simp [htext, get?]

end Expression.Bindings

namespace Session

variable {checker : Checker} {valid : Diagram} {g : Graph} {root : Fin g.size}

/-- Whether a diagram has at every product the reliability of a node, now and after more features were
declared. -/
structure Right (checker : Checker) (valid : Diagram) (g : Graph) (space : FeatureSpace) (i : Fin g.size)
    (d : Diagram) : Prop where
  wellFormed : d.WellFormed
  value : ∀ later, space.Extends later → ∀ x path, (∀ j ∈ path, ¬ g.Reaches i j) →
    g.valueAt checker valid.owner (valid.evaluate later x) (g.presentAt later x) path i = .ok (d.evaluate later x)

/-- Whether a diagram has at every product the value that a child stands for. -/
structure RightBelow (checker : Checker) (valid : Diagram) (g : Graph) (space : FeatureSpace) (c : Fin g.size)
    (d : Diagram) : Prop where
  wellFormed : d.WellFormed
  value : ∀ later, space.Extends later → ∀ x path, (∀ j ∈ path, ¬ g.Reaches c j) →
    g.childAt checker valid.owner (valid.evaluate later x) (g.presentAt later x) path c = .ok (d.evaluate later x)

/-- A diagram that is right for a node stays so when features are declared. -/
lemma Right.mono {space later : FeatureSpace} {i : Fin g.size} {d : Diagram} (h : Right checker valid g space i d)
    (hlater : space.Extends later) : Right checker valid g later i d :=
  ⟨h.wellFormed, fun _ hlatest => h.value _ (hlater.trans hlatest)⟩

/-- A diagram that is right for a child stays so when features are declared. -/
lemma RightBelow.mono {space later : FeatureSpace} {c : Fin g.size} {d : Diagram}
    (h : RightBelow checker valid g space c d) (hlater : space.Extends later) :
    RightBelow checker valid g later c d :=
  ⟨h.wellFormed, fun _ hlatest => h.value _ (hlater.trans hlatest)⟩

/-- The right diagram of a child, masked by its presence condition, is what the child stands for. -/
lemma Right.below {space : FeatureSpace} {c : Fin g.size} {condition d : Diagram}
    (h : Right checker valid g space c d) (howner : space.owner = valid.owner)
    (hcondition : (g.node c).presence.Meant space condition) :
    RightBelow checker valid g space c (condition.mul d) := by
  refine ⟨Diagram.wellFormed_mul hcondition.wellFormed h.wellFormed, ?_⟩
  intro later hlater x path hpath
  have hvalue : (condition.mul d).evaluate later x =
      valid.owner.product (condition.evaluate later x) (d.evaluate later x) := by
    rw [← howner, ← hcondition.owner]
    exact Diagram.valueAt_mul hcondition.wellFormed h.wellFormed _
  rw [Graph.childAt, Graph.presentAt, hcondition.value later hlater x, h.value later hlater x path hpath, hvalue]
  rfl

/-- Whether every name that is bound stands for one of the children of a node with its id. -/
def BoundRight (checker : Checker) (valid : Diagram) (g : Graph) (i : Fin g.size) (space : FeatureSpace)
    (bindings : Expression.Bindings) : Prop :=
  ∀ text operand, bindings.get? text = some operand →
    ∃ c ∈ g.children i, g.id c = text ∧ ∃ d, operand = .diagram d ∧ RightBelow checker valid g space c d

/-- If the cached diagrams of the children are right, so is what their names are bound to. -/
lemma boundRight_of_bindChildren {i : Fin g.size} {cs : List (Fin g.size)} {bindings out : Expression.Bindings}
    {s after : Session} (hs : Sound checker valid s) (hcs : ∀ c ∈ cs, c ∈ g.children i)
    (hpresence : ∀ c ∈ cs, (g.node c).presence.WellFormed)
    (hcached : ∀ c ∈ cs, ∀ handle, s.cache.get? (g.id c) = some handle →
      Right checker valid g s.space c handle.diagram)
    (hbound : BoundRight checker valid g i s.space bindings)
    (h : bindChildren g (g.id i) cs bindings s = (.ok out, after)) :
    BoundRight checker valid g i after.space out := by
  induction cs generalizing bindings s with
  | nil =>
    cases h
    exact hbound
  | cons c rest ih =>
    rw [bindChildren] at h
    split at h
    · cases h
    · rename_i reliability hget
      have hspace := (kept_extends s.space).presence s (g.node c) (.refl _)
      have hcache := cache_presence s (g.node c)
      have hsound := hs.presence (g.node c)
      split at h
      · cases h
      · rename_i condition mid hp
        rw [hp] at hspace hcache hsound
        have hmeant := hs.meant_presence (hpresence c List.mem_cons_self) hp
        -- reading the condition only extends the space, so the cached diagrams are still right
        have hright := (hcached c List.mem_cons_self reliability hget).mono hspace
        refine ih hsound (fun d hd => hcs d (List.mem_cons_of_mem c hd))
          (fun d hd => hpresence d (List.mem_cons_of_mem c hd)) ?_ ?_ h
        · intro d hd handle hhandle
          have hcache : mid.cache = s.cache := hcache
          rw [hcache] at hhandle
          exact (hcached d (List.mem_cons_of_mem c hd) handle hhandle).mono hspace
        · intro text operand hoperand
          rw [Expression.Bindings.get?_put] at hoperand
          split at hoperand
          · rename_i htext
            obtain rfl := Option.some.inj hoperand
            exact ⟨c, hcs c List.mem_cons_self, htext.symm, _, rfl, hright.below hsound.owner hmeant⟩
          · obtain ⟨d, hd, hid, b, hb, hbelow⟩ := hbound text operand hoperand
            exact ⟨d, hd, hid, b, hb, hbelow.mono hspace⟩

end Session

/-- Whether no node below a root depends on itself, ids tell these nodes apart, and their presence conditions are
formulas or well-formed diagrams. -/
structure Graph.WellFormed (g : Graph) (root : Fin g.size) : Prop where
  acyclic : g.Acyclic root
  distinct : g.DistinctIds root
  presence : ∀ i, g.Reaches root i → (g.node i).presence.WellFormed

namespace Graph.WellFormed

variable {g : Graph} {root i c : Fin g.size}

/-- The child that a name stands for is found by its id. -/
lemma find?_child (hg : g.WellFormed root) (hi : g.Reaches root i) (hc : c ∈ g.children i) :
    (g.children i).find? (g.id · = g.id c) = some c := by
  have hsome : ((g.children i).find? (g.id · = g.id c)).isSome = true := by
    rw [List.find?_isSome]
    exact ⟨c, hc, by simp⟩
  obtain ⟨d, hd⟩ := Option.isSome_iff_exists.1 hsome
  have hid : g.id d = g.id c := by simpa using List.find?_some hd
  rw [hd, hg.distinct d c (hi.tail (List.mem_of_find?_eq_some hd)) (hi.tail hc) hid]

/-- What waits for a node and what waits for its child cannot be reached from the child. -/
lemma not_reaches_child (hg : g.WellFormed root) (hi : g.Reaches root i) (hc : c ∈ g.children i)
    {path : List (Fin g.size)} (hpath : ∀ j ∈ path, ¬ g.Reaches i j) : ∀ j ∈ i :: path, ¬ g.Reaches c j := by
  intro j hj hreach
  rcases List.mem_cons.1 hj with rfl | hj
  · exact hg.acyclic j hi (.head' hc hreach)
  · exact hpath j hj (.head hc hreach)

/-- The graph of one node with a well-formed presence condition is well-formed. -/
lemma single {id : String} {presence : Presence} {model : Model} (h : presence.WellFormed)
    (i : Fin (Graph.single id presence model).size) : (Graph.single id presence model).WellFormed i := by
  refine ⟨acyclic_of_leaf ?_, fun j k _ _ _ => Subsingleton.elim (α := Fin 1) j k, fun j _ => ?_⟩
  · rw [children, node_single]
  · rw [node_single]
    exact h

/-- The two roots that share a child can be evaluated at every product alone. -/
lemma twin (i : Fin 4) : Graph.twin.WellFormed i := by
  refine ⟨fun j _ => not_transGen_twin j, fun j k _ _ hid => id_twin_injective hid, fun j _ => ?_⟩
  rcases cases_twin j with rfl | rfl | rfl | rfl <;> exact trivial

end Graph.WellFormed

namespace Session

variable {checker : Checker} {valid : Diagram} {g : Graph} {root : Fin g.size}

/-- If the cached diagrams of the children are right, so is the diagram computed for a node. -/
lemma right_of_compute (hvalid : valid.WellFormed) (hg : g.WellFormed root) {i : Fin g.size}
    (hi : g.Reaches root i) {s after : Session} (hs : Sound checker valid s)
    (hcached : ∀ c ∈ g.children i, ∀ handle, s.cache.get? (g.id c) = some handle →
      Right checker valid g s.space c handle.diagram)
    {d : Diagram} (h : compute g i s = (.ok d, after)) : Right checker valid g after.space i d := by
  have hafter := Sound.kept.compute i hs
  rw [h] at hafter
  cases computed_of_compute h with
  | @solved text bindings expression raw after hchecker hbind hparse hsolve =>
    have hask := Sound.kept.ask s (g.node i).model hs
    have hbound : BoundRight checker valid g i after.space bindings := by
      refine boundRight_of_bindChildren hask (fun c hc => hc) (fun c hc => hg.presence c (hi.tail hc)) hcached
        ?_ hbind
      intro text operand hoperand
      cases hoperand
    have hbindings : bindings.WellFormed := by
      intro text operand hoperand
      obtain ⟨c, _, _, b, hb, hbelow⟩ := hbound text operand hoperand
      exact ⟨b, hb, hbelow.wellFormed⟩
    obtain ⟨hraw, _⟩ := Expression.wellFormed_solve hbindings hsolve
    have hmodel : after.featureModel.diagram = valid := hafter.featureModel
    rw [hmodel]
    refine ⟨Diagram.wellFormed_mul hvalid hraw, ?_⟩
    intro later hlater x path hpath
    have hnot : i ∉ path := fun hmem => hpath i hmem .refl
    have howner : after.space.owner = valid.owner := hafter.owner
    rw [howner] at hsolve
    rw [Graph.valueAt_eq hnot (hs.checker ▸ hchecker) hparse,
      Expression.scalar_eq_valueAt hbindings hsolve (x := later.product x)]
    · rw [Diagram.evaluate, Diagram.evaluate, Diagram.valueAt_mul hvalid hraw]
      rfl
    · -- a name that occurs stands for the child with this id, on both sides
      intro text _ b hb
      obtain ⟨c, hc, rfl, b', hb', hbelow⟩ := hbound text _ hb
      cases hb'
      rw [hg.find?_child hi hc]
      exact hbelow.value later hlater x (i :: path) (hg.not_reaches_child hi hc hpath)

/-- Whether a session is sound and the cached diagrams of the nodes below a root are right. -/
structure Evaluated (checker : Checker) (valid : Diagram) (g : Graph) (root : Fin g.size) (s : Session) : Prop where
  sound : Sound checker valid s
  cached : ∀ i, g.Reaches root i → ∀ handle, s.cache.get? (g.id i) = some handle →
    Right checker valid g s.space i handle.diagram

namespace Evaluated

/-- A lookup leaves the cached diagrams right. -/
lemma look {s : Session} (hs : Evaluated checker valid g root s) (id : String) :
    Evaluated checker valid g root (s.look id).2 := by
  refine ⟨Sound.kept.look s id hs.sound, ?_⟩
  intro i hi handle hhandle
  rw [Cache.get?, entries_look] at hhandle
  exact (hs.cached i hi handle hhandle).mono ((kept_extends s.space).look s id (.refl _))

/-- Completing a node below the root puts a right diagram into the cache, or leaves the cache as it is. -/
lemma complete (hvalid : valid.WellFormed) (hg : g.WellFormed root) {i : Fin g.size} {s : Session}
    (hi : g.Reaches root i) (hs : Evaluated checker valid g root s) :
    Evaluated checker valid g root (complete g i s).2 := by
  have hsound := Sound.kept.complete i hs.sound
  have hspace := (kept_extends s.space).compute i (.refl _)
  have hcache := cache_compute g i s
  refine ⟨hsound, ?_⟩
  intro j hj handle hhandle
  generalize hout : Session.complete g i s = out at hhandle
  obtain ⟨r, after⟩ := out
  cases completed_of_complete hout with
  | failed hcompute =>
    rw [hcompute] at hspace hcache
    have hcache : after.cache = s.cache := hcache
    rw [hcache] at hhandle
    exact (hs.cached j hj handle hhandle).mono hspace
  | @refused d e mid hcompute =>
    rw [hcompute] at hspace hcache
    have hcache : mid.cache = s.cache := hcache
    have hhandle : mid.cache.get? (g.id j) = some handle := hhandle
    rw [hcache] at hhandle
    exact (hs.cached j hj handle hhandle).mono hspace
  | @recorded d mid cache hcompute hput =>
    have hright := right_of_compute hvalid hg hi hs.sound (fun c hc => hs.cached c (hi.tail hc)) hcompute
    rw [hcompute] at hspace hcache
    have hcache : mid.cache = s.cache := hcache
    obtain ⟨_, rfl⟩ := Cache.put_ok hput
    rcases lookup_concat hhandle with hold | ⟨hid, rfl⟩
    · rw [hcache] at hold
      exact (hs.cached j hj handle hold).mono hspace
    · -- the node itself, as no other one below the root has its id
      obtain rfl := hg.distinct j i hj hi hid
      exact hright

/-- An evaluation of the root returns a right diagram. -/
lemma right (hvalid : valid.WellFormed) (hg : g.WellFormed root) {s after : Session} {handle : Handle}
    (hs : Evaluated checker valid g root s) (h : evaluateNode g root s = (.ok handle, after)) :
    Right checker valid g after.space root handle.diagram := by
  have hafter : Evaluated checker valid g root (evaluateNode g root s).2 := by
    refine evaluateNode_keeps (Q := g.Reaches root) ?_ (fun _ id hs => hs.look id)
      (fun i _ hi hs => hs.complete hvalid hg hi) (fun i hi c hc => hi.tail hc) .refl hs
    exact fun hs => ⟨Sound.kept.untraced _ hs.sound, hs.cached⟩
  rw [h] at hafter
  exact hafter.cached root .refl handle (get?_of_evaluateNode h)

end Evaluated

/-- In a session that has been used in any way and has nothing cached, an evaluation that succeeds returns a diagram
that has at every product the reliability computed for this product alone, also after more features were
declared. The presence condition of the root itself may have any value. -/
theorem valueAt_of_evaluateNode {settings : Settings} {serial : Nat} {source : String} {checker : Checker}
    {builder : Option Builder} {s : Session} (hstart : start settings serial source checker builder = .ok s)
    (calls : List Call) (hempty : (s.after calls).cache.entries = []) {g : Graph} {root : Fin g.size}
    (hg : g.WellFormed root) {handle : Handle} {after : Session}
    (heval : evaluateNode g root (s.after calls) = (.ok handle, after)) {later : FeatureSpace}
    (hlater : after.space.Extends later) (x : String → Bool) {present : Fin g.size → Except Error Binary64}
    (hpresent : ∀ c ≠ root, present c = g.presentAt later x c) :
    g.valueAt checker s.space.owner (s.featureModel.diagram.evaluate later x) present [] root =
      .ok (handle.diagram.evaluate later x) := by
  obtain ⟨⟨r, _, hmodel⟩, _⟩ := started hstart
  have hvalid : s.featureModel.diagram.WellFormed := by
    rw [hmodel]
    exact Diagram.wellFormed_ofRegion _ r
  have hevaluated : Evaluated checker s.featureModel.diagram g root (s.after calls) := by
    refine ⟨(Sound.of_start hstart).after calls, ?_⟩
    intro i _ handle hhandle
    rw [Cache.get?, hempty] at hhandle
    cases hhandle
  have hright := (hevaluated.right hvalid hg heval).value later hlater x [] (by simp)
  rw [← hright, (Sound.of_start hstart).owner]
  refine Graph.valueAt_congr fun c hc => hpresent c ?_
  rintro rfl
  exact hg.acyclic c .refl hc

/-- The theorem applies, for example, to a fresh session and a root that names the child that it shares. -/
theorem valueAt_of_evaluateNode_twin : ∃ s handle after,
    start .standard 0 "a" Checker.plain none = .ok s ∧
    evaluateNode Graph.twin (1 : Fin 4) s = (.ok handle, after) ∧
    ∀ x, Graph.twin.valueAt Checker.plain s.space.owner (s.featureModel.diagram.evaluate after.space x)
      (Graph.twin.presentAt after.space x) [] (1 : Fin 4) = .ok (handle.diagram.evaluate after.space x) := by
  obtain ⟨s, handle, after, hstart, hempty, heval⟩ := exists_evaluated
  exact ⟨s, handle, after, hstart, heval, fun x =>
    valueAt_of_evaluateNode hstart [] hempty (.twin 1) heval (.refl _) x fun _ _ => rfl⟩

end Session

end ProductLine
