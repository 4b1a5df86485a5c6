import Mathlib.Tactic.Common
import ProductLine.Proofs.Session.Completion

/-!
# Reliabilities in other sessions and revised graphs

The reliability of a node at a product is decided by the checker, the rounding, the valid products and the
models and presence conditions below the node (`Graph.valueAt_withModels`). It is therefore the same in any
two sessions that agree on these (`valueAt_of_concordant`), whatever features they have declared, and in a
graph where models were replaced that the node does not depend on. An evaluation, on the other hand, does not
read the models of nodes that it comes to only below a cached one (`evaluateNode_withModels`).
-/

namespace ProductLine

namespace Owner

variable {owner owner' : Owner}

/-- Owners that keep as many places round alike. -/
lemma normalize_congr (h : owner.places = owner'.places) : owner.normalize = owner'.normalize := by
  funext v
  rw [normalize, normalize, h]

/-- Owners that keep as many places multiply alike. -/
lemma product_congr (h : owner.places = owner'.places) : owner.product = owner'.product := by
  funext a b
  rw [product, product, normalize_congr h]

/-- Owners that keep as many places read numbers alike. -/
lemma number_congr (h : owner.places = owner'.places) : owner.number = owner'.number := by
  funext value
  rw [number, number, normalize_congr h]

end Owner

/-- Arithmetic on numbers is decided by the rounding. -/
lemma Expression.scalar_owner {owner owner' : Owner} (h : owner.places = owner'.places)
    (value : String → Except Error Binary64) (e : Expression) : e.scalar owner value = e.scalar owner' value := by
  induction e with
  | int n => rw [scalar, scalar, Owner.number_congr h]
  | float v => rw [scalar, scalar, Owner.normalize_congr h]
  | name text => rfl
  | neg e ih => rw [scalar, scalar, ih, Owner.normalize_congr h]
  | pos e ih => exact ih
  | binary op left right ihl ihr =>
    have hop : op.scalar owner = op.scalar owner' := by
      funext a b
      cases op with
      | mul => rw [Operation.scalar, Operation.scalar, Owner.product_congr h]
      | _ => simp only [Operation.scalar, Owner.normalize_congr h]
    rw [scalar, scalar, ihl, ihr, hop]

namespace Graph

/-- A graph with the models of its nodes replaced. -/
abbrev withModels (g : Graph) (models : Fin g.size → Model) : Graph :=
  ⟨g.size, Vector.ofFn fun i => { g.node i with model := models i }⟩

variable {g : Graph} {models : Fin g.size → Model} {root i j : Fin g.size}

/-- A node whose model is replaced is the same node with this model. -/
@[simp] lemma node_withModels : (g.withModels models).node i = { g.node i with model := models i } := by
  simp [node, withModels]

/-- A node whose model is replaced keeps its id. -/
@[simp] lemma id_withModels : (g.withModels models).id i = g.id i := by
  rw [id, node_withModels]
  rfl

/-- The ids of nodes stay when models are replaced. -/
lemma ids_withModels : (g.withModels models).id = g.id := by
  funext i
  exact id_withModels

/-- A node whose model is replaced keeps its children. -/
@[simp] lemma children_withModels : (g.withModels models).children i = g.children i := by
  rw [children, node_withModels]
  rfl

/-- The same nodes are children of a node when models are replaced. -/
lemma child_withModels : (g.withModels models).Child = g.Child := by
  funext i c
  rw [Child, children_withModels]
  rfl

/-- The same nodes can be reached when models are replaced. -/
lemma reaches_withModels : (g.withModels models).Reaches = g.Reaches := by
  rw [Reaches, child_withModels]
  rfl

/-- Whether nodes are present does not depend on models. -/
lemma presentAt_withModels : (g.withModels models).presentAt = g.presentAt := by
  funext space x c
  rw [presentAt, node_withModels]
  rfl

/-- Whether models are those of a graph at and below every node under a root that has one of some ids. -/
def KeepsBelow (g : Graph) (root : Fin g.size) (ids : List String) (models : Fin g.size → Model) : Prop :=
  ∀ j, g.Reaches root j → g.id j ∈ ids → ∀ i, g.Reaches j i → models i = (g.node i).model

/-- Whether a node is another one or below it with none of the nodes on the way to it having one of some ids. -/
def Exposed (g : Graph) (ids : List String) : Fin g.size → Fin g.size → Prop :=
  Relation.ReflTransGen fun i c => g.id i ∉ ids ∧ c ∈ g.children i

/-- A node that is exposed with more ids cached is so with fewer. -/
lemma Exposed.mono {ids more : List String} (hmore : ∀ id ∈ ids, id ∈ more)
    (h : g.Exposed more i j) : g.Exposed ids i j :=
  Relation.ReflTransGen.mono (fun _ _ hedge => ⟨fun hid => hedge.1 (hmore _ hid), hedge.2⟩) i j h

/-- Replacing models leaves a graph well formed. -/
lemma WellFormed.withModels (hg : g.WellFormed root) (models : Fin g.size → Model) :
    (g.withModels models).WellFormed root := by
  constructor
  · intro i hi
    rw [reaches_withModels] at hi
    rw [child_withModels]
    exact hg.acyclic i hi
  · intro i j hi hj hid
    rw [reaches_withModels] at hi hj
    rw [id_withModels, id_withModels] at hid
    exact hg.distinct i j hi hj hid
  · intro i hi
    rw [reaches_withModels] at hi
    rw [node_withModels]
    exact hg.presence i hi

/-- A graph that is well-formed below a root is so below every node there. -/
lemma WellFormed.of_reaches (hg : g.WellFormed root) (hi : g.Reaches root i) : g.WellFormed i :=
  ⟨fun j hj => hg.acyclic j (hi.trans hj), fun j k hj hk => hg.distinct j k (hi.trans hj) (hi.trans hk),
    fun j hj => hg.presence j (hi.trans hj)⟩

/-- The reliability of a node is decided by the rounding, the models of the nodes that it depends on and its
own, and the presence conditions of the nodes that it depends on. -/
theorem valueAt_withModels {checker : Checker} {owner owner' : Owner} {valid : Binary64}
    {present present' : Fin g.size → Except Error Binary64} {path : List (Fin g.size)}
    (hplaces : owner.places = owner'.places) (hmodels : ∀ j, g.Reaches i j → models j = (g.node j).model)
    (hpresent : ∀ c, Relation.TransGen g.Child i c → present c = present' c) :
    (g.withModels models).valueAt checker owner valid present path i =
      g.valueAt checker owner' valid present' path i := by
  -- by induction on the nodes off the path, over which the recursion goes
  induction hn : g.unseen (fun j => j) path using Nat.strong_induction_on generalizing path i with
  | _ n ih =>
    have hnode : (g.withModels models).node i = g.node i := by rw [node_withModels, hmodels i .refl]
    by_cases hi : i ∈ path
    · rw [valueAt, dif_pos hi, valueAt, dif_pos hi]
      rw [ids_withModels]
    · have hbelow (c : Fin g.size) (hc : c ∈ g.children i) :
          (g.withModels models).childAt checker owner valid present (i :: path) c =
            g.childAt checker owner' valid present' (i :: path) c := by
        have hlt : g.unseen (fun j => j) (i :: path) < n := by
          rw [← hn]
          exact g.unseen_lt (fun j => j) hi List.mem_cons_self fun _ hk => List.mem_cons_of_mem _ hk
        have hvalue := ih _ hlt (fun j hj => hmodels j (.head hc hj)) (fun d hd => hpresent d (.head hc hd)) rfl
        rw [childAt, childAt, hpresent c (.single hc), hvalue, Owner.product_congr hplaces]
      cases hchecker : checker (g.node i).model with
      | error e => rw [valueAt, dif_neg hi, valueAt, dif_neg hi, hnode, hchecker]
      | ok text =>
        have hchecker' : checker ((g.withModels models).node i).model = .ok text := by rw [hnode, hchecker]
        cases hparse : Expression.parse text with
        | error e => simp only [valueAt, dif_neg hi, hchecker, hchecker', hparse]
        | ok expression =>
          rw [valueAt_eq (g := g.withModels models) hi hchecker' hparse, valueAt_eq hi hchecker hparse,
            Expression.scalar_owner hplaces, Owner.product_congr hplaces]
          congr 2
          funext name
          have hfind : ((g.withModels models).children i).find? ((g.withModels models).id · = name) =
              (g.children i).find? (g.id · = name) := by
            simp only [children_withModels, id_withModels]
          have hids : ((g.withModels models).children i).map (g.withModels models).id =
              (g.children i).map g.id := by
            simp only [children_withModels, ids_withModels]
          rw [hfind, hids]
          cases hchild : (g.children i).find? (g.id · = name) with
          | none => rfl
          | some c => exact hbelow c (List.mem_of_find?_eq_some hchild)

/-- The reliability of a node is the same for another owner that rounds in the same way. -/
lemma valueAt_congr_owner {checker : Checker} {owner owner' : Owner} {valid : Binary64}
    {present present' : Fin g.size → Except Error Binary64} {path : List (Fin g.size)}
    (hplaces : owner.places = owner'.places)
    (hpresent : ∀ c, Relation.TransGen g.Child i c → present c = present' c) :
    g.valueAt checker owner valid present path i = g.valueAt checker owner' valid present' path i := by
  -- both are the reliability in the graph with its own models
  have hown : (g.withModels fun j => (g.node j).model).valueAt checker owner valid present path i =
      g.valueAt checker owner' valid present' path i :=
    valueAt_withModels hplaces (fun _ _ => rfl) hpresent
  rw [← hown]
  exact (valueAt_withModels rfl (fun _ _ => rfl) fun _ _ => rfl).symm

end Graph

namespace Session

/-! What an evaluation reads -/

section Reading

variable {g : Graph} {models : Fin g.size → Model} {i : Fin g.size} {s : Session}

/-- Children are bound in the same way when models are replaced. -/
lemma bindChildren_withModels (parent : String) (cs : List (Fin g.size)) (bindings : Expression.Bindings)
    (s : Session) :
    bindChildren (g.withModels models) parent cs bindings s = bindChildren g parent cs bindings s := by
  have hpresence (c : Fin g.size) (t : Session) :
      t.presence ((g.withModels models).node c) = t.presence (g.node c) := by
    rw [Graph.node_withModels]
    rfl
  induction cs generalizing bindings s with
  | nil => rfl
  | cons c rest ih =>
    rw [bindChildren, bindChildren, Graph.id_withModels, hpresence]
    split
    · rfl
    · split
      · rfl
      · exact ih _ _

/-- Children are scanned in the same way when models are replaced. -/
lemma scan_withModels (path : List String) (cs pending : List (Fin g.size)) (s : Session) :
    scan (g.withModels models) path cs pending s = scan g path cs pending s := by
  induction cs generalizing pending s with
  | nil => rfl
  | cons c rest ih =>
    rw [scan, scan, Graph.id_withModels]
    split
    · rfl
    · split
      · exact ih _ _
      · exact ih _ _

/-- Completing a node reads its own model only. -/
lemma complete_withModels (h : models i = (g.node i).model) :
    complete (g.withModels models) i s = complete g i s := by
  have hnode : (g.withModels models).node i = g.node i := by rw [Graph.node_withModels, h]
  have hcompute : compute (g.withModels models) i s = compute g i s := by
    simp only [compute, hnode, Graph.id_withModels, Graph.children_withModels, bindChildren_withModels]
  rw [complete, complete, hcompute, Graph.id_withModels]

/-- An evaluation reads the models of those nodes only that it can come to without passing a cached one. -/
theorem visit_withModels {path : List String} {nodes : List (Fin g.size)}
    (h : ∀ i ∈ nodes, ∀ j, g.Exposed s.cache.ids i j → g.id j ∉ s.cache.ids → models j = (g.node j).model) :
    visit (g.withModels models) path nodes s = visit g path nodes s := by
  -- along the evaluation: as the cache grows, fewer nodes can be come to without passing a cached one
  induction path, nodes, s using visit.induct g with
  | case1 path s => rw [visit_nil, visit_nil]
  | case2 path i rest s hcached ih =>
    have hcached' : s.cache.contains ((g.withModels models).id i) = true := by rwa [Graph.id_withModels]
    rw [visit_cached hcached, visit_cached hcached']
    exact ih fun j hj => h j (List.mem_cons_of_mem i hj)
  | case3 path i rest s hcached hi =>
    have hcached' : ¬ s.cache.contains ((g.withModels models).id i) = true := by rwa [Graph.id_withModels]
    have hi' : (g.withModels models).id i ∈ path := by rwa [Graph.id_withModels]
    rw [visit_closing hcached hi, visit_closing hcached' hi', Graph.id_withModels]
  | case4 path i rest s hcached hi e mid hscan =>
    have hcached' : ¬ s.cache.contains ((g.withModels models).id i) = true := by rwa [Graph.id_withModels]
    have hi' : (g.withModels models).id i ∉ path := by rwa [Graph.id_withModels]
    have hscan' : scan (g.withModels models) (path ++ [(g.withModels models).id i])
        ((g.withModels models).children i).reverse [] s = (.error e, mid) := by
      rw [Graph.id_withModels, Graph.children_withModels, scan_withModels, hscan]
    rw [visit_of_scan_error hcached hi hscan, visit_of_scan_error hcached' hi' hscan']
  | case5 path i rest s hcached hi pending mid hscan ih₁ ih₂ =>
    have hcached' : ¬ s.cache.contains ((g.withModels models).id i) = true := by rwa [Graph.id_withModels]
    have hi' : (g.withModels models).id i ∉ path := by rwa [Graph.id_withModels]
    have hscan' : scan (g.withModels models) (path ++ [(g.withModels models).id i])
        ((g.withModels models).children i).reverse [] s = (.ok pending, mid) := by
      rw [Graph.id_withModels, Graph.children_withModels, scan_withModels, hscan]
    have hnew : g.id i ∉ s.cache.ids := fun hmem => hcached (Cache.contains_iff.2 hmem)
    have hids : mid.cache.ids = s.cache.ids := (Idle.scan hscan).ids
    have hmodel : models i = (g.node i).model := h i List.mem_cons_self i .refl hnew
    rw [visit_of_scan_ok hcached hi hscan, visit_of_scan_ok hcached' hi' hscan', Graph.id_withModels, ih₁ ?_]
    · generalize hvisit : visit g (path ++ [g.id i]) pending mid = out
      obtain ⟨e | ⟨⟨⟩⟩, s₁⟩ := out
      · rfl
      · rw [Outcome.andThen_ok, Outcome.andThen_ok, complete_withModels hmodel]
        generalize hcomplete : complete g i s₁ = out
        obtain ⟨e | ⟨⟨⟩⟩, s₂⟩ := out
        · rfl
        · rw [Outcome.andThen_ok, Outcome.andThen_ok]
          have hgrown : ∀ id ∈ s.cache.ids, id ∈ s₂.cache.ids := by
            intro id hid
            rw [(complete_ok hcomplete).2]
            refine List.mem_append_left _ (mem_ids_visit hvisit ?_)
            rwa [hids]
          refine ih₂ s₂ fun j hj k hk hnot => ?_
          exact h j (List.mem_cons_of_mem i hj) k (hk.mono hgrown) fun hid => hnot (hgrown _ hid)
    · intro c hc j hj hnot
      rw [pending_eq hscan] at hc
      rw [hids] at hj hnot
      exact h i List.mem_cons_self j (.head ⟨hnew, (List.mem_filter.1 hc).1⟩ hj) hnot

/-- Replacing models below cached nodes changes nothing for an evaluation. -/
theorem evaluateNode_withModels
    (h : ∀ j, g.Exposed s.cache.ids i j → g.id j ∉ s.cache.ids → models j = (g.node j).model) :
    evaluateNode (g.withModels models) i s = evaluateNode g i s := by
  have hids := ids_look { s with trace := .empty } (g.id i)
  simp only [evaluateNode, Graph.id_withModels, Walk.run_eq_visit]
  generalize { s with trace := .empty }.look (g.id i) = out at hids
  obtain ⟨r, mid⟩ := out
  cases r with
  | some handle => rfl
  | none =>
    have hids : mid.cache.ids = s.cache.ids := hids
    have hvisit : visit (g.withModels models) [] [i] mid = visit g [] [i] mid := by
      apply visit_withModels
      intro j hj k hk hnot
      obtain rfl := List.mem_singleton.1 hj
      rw [hids] at hk hnot
      exact h k hk hnot
    simp only [hvisit]

end Reading

/-! Sessions that agree -/

variable {checker : Checker} {places : Option Nat} {f : Formula} {valid valid' : Diagram} {g : Graph}
  {root i : Fin g.size} {s t t' : Session}

/-- What decides the numbers of a session: its checker, its rounding, and a formula that holds for the valid
products. -/
structure Analyses (checker : Checker) (places : Option Nat) (f : Formula) (valid : Diagram) (s : Session) :
    Prop where
  sound : Sound checker valid s
  canonical : s.Canonical
  places : valid.owner.places = places
  holds : ∀ later, s.space.Extends later → ∀ x, valid.evaluate later x = if f.holds x then .one else .zero

namespace Analyses

/-- The products that a session analyses are those of a well-formed diagram. -/
lemma wellFormed (hs : Analyses checker places f valid s) : valid.WellFormed := by
  have hmodel := hs.canonical.featureModel.wellFormed
  rwa [hs.sound.featureModel] at hmodel

/-- Every small step of an evaluation leaves it as it is. -/
lemma kept : Kept (Analyses checker places f valid) where
  untraced s hs := ⟨Sound.kept.untraced s hs.sound, Canonical.kept.untraced s hs.canonical, hs.places, hs.holds⟩
  look s id hs := ⟨Sound.kept.look s id hs.sound, Canonical.kept.look s id hs.canonical, hs.places,
    fun later hlater => hs.holds later (((kept_extends s.space).look s id (.refl _)).trans hlater)⟩
  ask s model hs := ⟨Sound.kept.ask s model hs.sound, Canonical.kept.ask s model hs.canonical, hs.places, hs.holds⟩
  presence s node hs :=
    ⟨Sound.kept.presence s node hs.sound, Canonical.kept.presence s node hs.canonical, hs.places,
    fun later hlater => hs.holds later (((kept_extends s.space).presence s node (.refl _)).trans hlater)⟩
  make s d hs := ⟨Sound.kept.make s d hs.sound, Canonical.kept.make s d hs.canonical, hs.places, hs.holds⟩
  record hs hput := ⟨Sound.kept.record hs.sound hput, Canonical.kept.record hs.canonical hput, hs.places, hs.holds⟩

/-- A session that forgets everything analyses the same products. -/
lemma clear (hs : Analyses checker places f valid s) : Analyses checker places f valid s.clear :=
  ⟨hs.sound.of_clear, hs.canonical.clear, hs.places, hs.holds⟩

/-- A session with another cache analyses the same products. -/
lemma withCache (hs : Analyses checker places f valid s) (cache : Cache) :
    Analyses checker places f valid { s with cache } :=
  ⟨⟨hs.sound.checker, hs.sound.featureModel, hs.sound.owner, hs.sound.presences⟩,
    ⟨hs.canonical.nodup, hs.canonical.featureModel, hs.canonical.presences⟩, hs.places, hs.holds⟩

/-- A session analyses the same products whatever it is called for. -/
lemma after (hs : Analyses checker places f valid s) (calls : List Call) :
    Analyses checker places f valid (s.after calls) := by
  refine kept.after ?_ ?_ ?_ ?_ calls hs
  · intro s names hs
    have hspace := s.space.declare_extends_self names
    refine ⟨⟨hs.sound.checker, hs.sound.featureModel, hs.sound.owner, ?_⟩, hs.canonical.declare names, hs.places,
      fun later hlater => hs.holds later (hspace.trans hlater)⟩
    exact fun text handle h => (hs.sound.presences text handle h).mono hspace
  · exact fun s hs => hs.withCache .empty
  · exact fun s hs => hs.clear
  · intro s hs
    rw [close]
    split
    · exact hs
    · have hclear := hs.clear
      exact ⟨⟨hclear.sound.checker, hclear.sound.featureModel, hclear.sound.owner, hclear.sound.presences⟩,
        ⟨hclear.canonical.nodup, hclear.canonical.featureModel, hclear.canonical.presences⟩, hs.places, hs.holds⟩

/-- A session that was started analyses the products of its source. -/
lemma of_start {settings : Settings} {serial : Nat} {source : String} {builder : Option Builder}
    (h : start settings serial source checker builder = .ok s) :
    ∃ f, Formula.ofText source = .ok f ∧ Analyses checker settings.places f s.featureModel.diagram s := by
  obtain ⟨⟨r, hencode, hmodel⟩, _⟩ := started h
  obtain ⟨f, hf, hholds⟩ := FeatureSpace.encode_holds hencode
  have hspace := (settings.space serial).encode_extends source
  rw [hencode] at hspace
  refine ⟨f, hf, .of_start h, .of_start h, ?_, ?_⟩
  · rw [← (Sound.of_start h).owner, hspace.owner]
    rfl
  · intro later hlater x
    rw [hmodel, Diagram.evaluate, Diagram.valueAt_ofRegion, hholds later hlater x]

end Analyses

/-- Whether the presence conditions below a root that can be used in a session can be used in another one too
and mean the same there. -/
structure Concordant (g : Graph) (root : Fin g.size) (s t : Session) : Prop where
  usable : ∀ c, g.Reaches root c → (g.node c).presence.Usable t.space.owner →
    (g.node c).presence.Usable s.space.owner
  same : ∀ c, g.Reaches root c → (g.node c).presence.Usable t.space.owner → ∀ later, s.space.Extends later →
    ∀ later', t.space.Extends later' → ∀ x, g.presentAt later x c = g.presentAt later' x c

/-- Two sessions stay so when the first declares more features. -/
lemma Concordant.mono {s' : Session} (h : Concordant g root s t) (hspace : s.space.Extends s'.space) :
    Concordant g root s' t := by
  refine ⟨?_, fun c hc husable later hlater => h.same c hc husable later (hspace.trans hlater)⟩
  intro c hc husable
  rw [hspace.owner]
  exact h.usable c hc husable

section Concordant

variable (hs : Analyses checker places f valid s) (ht : Analyses checker places f valid' t)
  (hconcordant : Concordant g root s t) (hi : g.Reaches root i)

include hs ht hconcordant hi

/-- In two such sessions a node has the same reliability at every product. -/
lemma valueAt_of_concordant
    (husable : ∀ c, Relation.TransGen g.Child i c → (g.node c).presence.Usable t.space.owner)
    {later later' : FeatureSpace} (hlater : s.space.Extends later) (hlater' : t.space.Extends later')
    (x : String → Bool) (path : List (Fin g.size)) :
    g.valueAt checker valid.owner (valid.evaluate later x) (g.presentAt later x) path i =
      g.valueAt checker valid'.owner (valid'.evaluate later' x) (g.presentAt later' x) path i := by
  rw [hs.holds later hlater x, ht.holds later' hlater' x]
  refine Graph.valueAt_congr_owner (hs.places.trans ht.places.symm) fun c hc => ?_
  exact hconcordant.same c (hi.trans hc.to_reflTransGen) (husable c hc) later hlater later' hlater' x

/-- What is evaluable in the one is in the other. -/
lemma evaluable_of_concordant (ht' : t.space.Extends t'.space)
    (h : g.Evaluable checker valid' t'.space i) : g.Evaluable checker valid s.space i := by
  have husable : ∀ c, Relation.TransGen g.Child i c → (g.node c).presence.Usable t.space.owner := by
    intro c hc
    rw [← ht'.owner]
    exact h.presence c hc
  constructor
  · exact fun c hc => hconcordant.usable c (hi.trans hc.to_reflTransGen) (husable c hc)
  · intro j hj later hlater x
    rw [valueAt_of_concordant hs ht hconcordant (hi.trans hj)
      (fun c hc => husable c (.trans_right hj hc)) hlater ht']
    exact h.value j hj t'.space (.refl _) x

/-- A canonical diagram with the values of a right one in the other session is right. -/
lemma right_of_concordant (ht' : t.space.Extends t'.space)
    (husable : ∀ c, Relation.TransGen g.Child i c → (g.node c).presence.Usable t.space.owner) {d d' : Diagram}
    (hd : d.Canonical s.space) (hd' : Right checker valid' g t'.space i d')
    (hvalue : ∀ x, d.evaluate s.space x = d'.evaluate t'.space x) : Right checker valid g s.space i d := by
  refine ⟨hd.wellFormed, ?_⟩
  intro later hlater x path hpath
  rw [valueAt_of_concordant hs ht hconcordant hi husable hlater ht', hd.evaluate_later hlater, hvalue]
  exact hd'.value t'.space (.refl _) x path hpath

/-- Right diagrams of a node have the same values in both. -/
lemma evaluate_of_concordant (ht' : t.space.Extends t'.space)
    (husable : ∀ c, Relation.TransGen g.Child i c → (g.node c).presence.Usable t.space.owner) {d d' : Diagram}
    (hd : Right checker valid g s.space i d) (hd' : Right checker valid' g t'.space i d') (x : String → Bool) :
    d.evaluate s.space x = d'.evaluate t'.space x := by
  have hvalue := hd.value s.space (.refl _) x [] (by simp)
  rw [valueAt_of_concordant hs ht hconcordant hi husable (.refl _) ht',
    hd'.value t'.space (.refl _) x [] (by simp)] at hvalue
  exact (Except.ok.inj hvalue).symm

end Concordant

end Session

end ProductLine
