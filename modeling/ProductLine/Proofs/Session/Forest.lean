import Mathlib.Tactic.Common
import ProductLine.Proofs.Session.Rearrangement
import ProductLine.Proofs.Session.Resumption

/-!
# Forests

The roots of a forest are evaluated one after the other in a session that keeps what it computed, and some of
the nodes below them may have been evaluated before. Whatever was evaluated, the diagrams in the cache are
right for every root (`Session.settled_evaluateNode`), so all roots can be evaluated exactly if each is
evaluable (`Session.evaluateForest_ok_iff`). Whether they can and with which values does therefore not depend
on the order of the roots, on what was evaluated before, on the order in which children are listed, nor on the
order of the features (`Session.evaluateForest_agrees`).
-/

namespace ProductLine

namespace Graph

/-- Whether a node is one of some roots or below one. -/
def Under (g : Graph) (roots : List (Fin g.size)) (i : Fin g.size) : Prop := ∃ root ∈ roots, g.Reaches root i

/-- Whether no node below some roots depends on itself, ids tell these nodes apart, and their presence
conditions are formulas. -/
structure Forest (g : Graph) (roots : List (Fin g.size)) : Prop where
  acyclic : ∀ i, g.Under roots i → ¬ Relation.TransGen g.Child i i
  distinct : ∀ i j, g.Under roots i → g.Under roots j → g.id i = g.id j → i = j
  textual : ∀ i, g.Under roots i → ∃ text, (g.node i).presence = .formula text

variable {g : Graph} {roots roots' : List (Fin g.size)} {i j : Fin g.size}

/-- A root is under the roots. -/
lemma Under.of_mem (h : i ∈ roots) : g.Under roots i := ⟨i, h, .refl⟩

/-- What lies below a node under the roots is under them. -/
lemma Under.trans (h : g.Under roots i) (hj : g.Reaches i j) : g.Under roots j := by
  obtain ⟨root, hroot, hi⟩ := h
  exact ⟨root, hroot, hi.trans hj⟩

namespace Forest

/-- Whether nodes are the roots of a forest does not depend on their order and number. -/
lemma congr (h : g.Forest roots) (hroots : ∀ i, i ∈ roots' ↔ i ∈ roots) : g.Forest roots' := by
  have hunder : g.Under roots' = g.Under roots := by
    funext i
    simp only [Under, hroots]
  constructor
  · rw [hunder]
    exact h.acyclic
  · rw [hunder]
    exact h.distinct
  · rw [hunder]
    exact h.textual

/-- A graph is well-formed below every node under the roots of a forest. -/
lemma wellFormed (h : g.Forest roots) (hi : g.Under roots i) : g.WellFormed i := by
  refine ⟨fun j hj => h.acyclic j (hi.trans hj), fun j k hj hk => h.distinct j k (hi.trans hj) (hi.trans hk), ?_⟩
  intro j hj
  obtain ⟨text, htext⟩ := h.textual j (hi.trans hj)
  rw [htext]
  trivial

/-- The presence conditions in a forest are canonical in every space. -/
lemma canonical (h : g.Forest roots) (hi : g.Under roots i) (space : FeatureSpace) :
    (g.node i).presence.Canonical space := by
  obtain ⟨text, htext⟩ := h.textual i hi
  rw [htext]
  trivial

variable {children : Fin g.size → List (Fin g.size)} (hperm : ∀ i, (children i).Perm (g.children i))

include hperm

/-- The same nodes are under the roots when children are listed otherwise. -/
lemma under_rearrange : (g.rearrange children).Under roots = g.Under roots := by
  funext i
  rw [Under, Under, reaches_rearrange hperm]

/-- A forest stays one when children are listed otherwise. -/
lemma rearrange (h : g.Forest roots) : (g.rearrange children).Forest roots := by
  constructor
  · rw [under_rearrange hperm, child_rearrange hperm]
    exact h.acyclic
  · rw [under_rearrange hperm, ids_rearrange]
    exact h.distinct
  · intro i hi
    rw [under_rearrange hperm] at hi
    rw [node_rearrange]
    exact h.textual i hi

end Forest

end Graph

namespace Session

variable {checker : Checker} {places : Option Nat} {source : String} {f : Formula} {valid valid' : Diagram}
  {g : Graph} {roots nodes : List (Fin g.size)} {root i : Fin g.size} {base : FeatureSpace} {s t after : Session}

/-- Formulas are usable in all sessions and mean the same in all of them. -/
lemma Concordant.of_forest (hforest : g.Forest roots) (hroot : root ∈ roots) (s t : Session) :
    Concordant g root s t := by
  constructor
  · intro c hc husable
    obtain ⟨text, htext⟩ := hforest.textual c ⟨root, hroot, hc⟩
    rw [htext] at husable ⊢
    exact husable
  · intro c hc husable later _ later' _ x
    obtain ⟨text, htext⟩ := hforest.textual c ⟨root, hroot, hc⟩
    rw [Graph.presentAt, Graph.presentAt, htext]
    rfl

/-! Evaluating several nodes -/

/-- A session that is settled for a root is settled for every node below it. -/
lemma Settled.of_reaches (hs : Settled checker valid g root base s) (hi : g.Reaches root i) :
    Settled checker valid g i base s :=
  ⟨⟨hs.evaluated.sound, fun j hj => hs.evaluated.cached j (hi.trans hj)⟩, hs.canonical, hs.extends_base,
    fun j hj => hs.cached j (hi.trans hj)⟩

/-- Evaluating a node leaves settled what is below another root. -/
theorem settled_evaluateNode (hvalid : valid.WellFormed) (hforest : g.Forest roots)
    (hs : ∀ root ∈ roots, Settled checker valid g root base s) (hi : g.Under roots i) :
    ∀ root ∈ roots, Settled checker valid g root base (evaluateNode g i s).2 := by
  intro root hroot
  obtain ⟨above, habove, hreach⟩ := id hi
  have hafter := ((hs above habove).of_reaches hreach).evaluateNode hvalid (hforest.wellFormed hi)
    fun c hc => hforest.canonical (hi.trans hc) base
  have hspace := (kept_extends s.space).evaluateNode (g := g) i (.refl _)
  obtain ⟨⟨new, hentries, hnew⟩, -, -, hreached⟩ := added_evaluateNode g i s
  -- a cached diagram was cached before or is that of a node below the one evaluated
  have hcached {j : Fin g.size} (hj : g.Reaches root j) {handle : Handle}
      (h : (evaluateNode g i s).2.cache.get? (g.id j) = some handle) :
      s.cache.get? (g.id j) = some handle ∨ g.Reaches i j := by
    rw [Cache.get?, hentries, List.lookup_append, Option.or_eq_some_iff] at h
    rcases h with hold | ⟨-, hmem⟩
    · exact .inl hold
    · have hid : g.id j ∈ (evaluateNode g i s).2.trace.evaluated := by
        rw [← hnew]
        exact List.mem_map.2 ⟨_, mem_of_lookup hmem, rfl⟩
      obtain ⟨k, hk, hkj⟩ := hreached _ hid
      rw [hforest.distinct j k ⟨root, hroot, hj⟩ (hi.trans hk) hkj.symm]
      exact .inr hk
  refine ⟨⟨hafter.evaluated.sound, ?_⟩, hafter.canonical, hafter.extends_base, ?_⟩
  · intro j hj handle hhandle
    rcases hcached hj hhandle with hold | hbelow
    · exact ((hs root hroot).evaluated.cached j hj handle hold).mono hspace
    · exact hafter.evaluated.cached j hbelow handle hhandle
  · intro j hj handle hhandle
    rcases hcached hj hhandle with hold | hbelow
    · obtain ⟨hcanonical, hevaluable⟩ := (hs root hroot).cached j hj handle hold
      exact ⟨hcanonical.mono hspace, hevaluable.mono hspace⟩
    · exact hafter.cached j hbelow handle hhandle

/-- A call to evaluate a node leaves the session that the evaluation leaves. -/
lemma respond_evaluateNode (s : Session) (i : Fin g.size) :
    ((Call.evaluateNode g i).respond s).2 = (evaluateNode g i s).2 := by
  rw [Call.respond]
  split
  · rename_i h
    rw [h]
  · rename_i h
    rw [h]

/-- A session stays settled for every root of a forest when nodes under them are evaluated. -/
lemma settled_after (hvalid : valid.WellFormed) (hforest : g.Forest roots)
    (hs : ∀ root ∈ roots, Settled checker valid g root base s) (hnodes : ∀ i ∈ nodes, g.Under roots i) :
    ∀ root ∈ roots, Settled checker valid g root base (s.after (nodes.map (.evaluateNode g))) := by
  induction nodes generalizing s with
  | nil => exact hs
  | cons i rest ih =>
    have hfirst := settled_evaluateNode hvalid hforest hs (hnodes i List.mem_cons_self)
    rw [← respond_evaluateNode] at hfirst
    exact ih hfirst fun j hj => hnodes j (List.mem_cons_of_mem i hj)

/-- A session stays settled for every root of a forest when several nodes under them are evaluated. -/
lemma settled_evaluateMany (hvalid : valid.WellFormed) (hforest : g.Forest roots)
    (hs : ∀ root ∈ roots, Settled checker valid g root base s) (hnodes : ∀ i ∈ nodes, g.Under roots i)
    (results : List (String × Handle)) :
    ∀ root ∈ roots, Settled checker valid g root base (evaluateMany g nodes results s).2 := by
  induction nodes generalizing s results with
  | nil => exact hs
  | cons i rest ih =>
    have hfirst := settled_evaluateNode hvalid hforest hs (hnodes i List.mem_cons_self)
    rw [evaluateMany]
    split
    · rename_i heval
      rwa [heval] at hfirst
    · rename_i heval
      rw [heval] at hfirst
      exact ih hfirst (fun j hj => hnodes j (List.mem_cons_of_mem i hj)) _

/-- Nodes that are evaluable can be evaluated one after the other. -/
lemma exists_evaluateMany (hvalid : valid.WellFormed) (hforest : g.Forest roots)
    (hs : ∀ root ∈ roots, Settled checker valid g root base s) (hnodes : ∀ i ∈ nodes, g.Under roots i)
    (hevaluable : ∀ i ∈ nodes, g.Evaluable checker valid base i) (results : List (String × Handle)) :
    ∃ out, (evaluateMany g nodes results s).1 = .ok out := by
  induction nodes generalizing s results with
  | nil => exact ⟨results, rfl⟩
  | cons i rest ih =>
    have hi := hnodes i List.mem_cons_self
    have hfirst := settled_evaluateNode hvalid hforest hs hi
    obtain ⟨above, habove, hreach⟩ := id hi
    obtain ⟨handle, after, heval⟩ := exists_evaluateNode hvalid (hforest.wellFormed hi)
      (fun c hc => hforest.canonical (hi.trans hc) base) (hevaluable i List.mem_cons_self)
      ((hs above habove).of_reaches hreach)
    rw [heval] at hfirst
    rw [evaluateMany, heval]
    exact ih hfirst (fun j hj => hnodes j (List.mem_cons_of_mem i hj))
      (fun j hj => hevaluable j (List.mem_cons_of_mem i hj)) _

/-! Results -/

/-- A result is put in place of an earlier one for the same id, or at the end. -/
lemma names_putResult (results : List (String × Handle)) (id : String) (handle : Handle) :
    (putResult results id handle).map Prod.fst =
      if id ∈ results.map Prod.fst then results.map Prod.fst else results.map Prod.fst ++ [id] := by
  have hany : results.any (·.1 == id) = true ↔ id ∈ results.map Prod.fst := by simp
  rw [putResult]
  by_cases hid : id ∈ results.map Prod.fst
  · rw [if_pos (hany.2 hid), if_pos hid, List.map_map]
    refine List.map_congr_left fun e _ => ?_
    rw [Function.comp_apply]
    split
    · rename_i he
      exact he.symm
    · rfl
  · rw [if_neg (mt hany.1 hid), if_neg hid, List.map_append]
    rfl

/-- Putting a result adds no other one. -/
lemma mem_putResult {results : List (String × Handle)} {id : String} {handle : Handle} {e : String × Handle}
    (he : e ∈ putResult results id handle) : e ∈ results ∨ e = (id, handle) := by
  rw [putResult] at he
  split at he
  · obtain ⟨e', he', rfl⟩ := List.mem_map.1 he
    split
    · exact .inr rfl
    · exact .inl he'
  · simpa using he

/-- What is cached stays cached. -/
lemma get?_evaluateNode {id : String} {handle : Handle} (h : s.cache.get? id = some handle) :
    (evaluateNode g i s).2.cache.get? id = some handle := by
  obtain ⟨⟨new, hentries, -⟩, -⟩ := added_evaluateNode g i s
  rw [Cache.get?] at h
  rw [Cache.get?, hentries, List.lookup_append, h, Option.some_or]

/-- The results of several nodes stand under their ids, in the order in which these first appear, and are what
is cached for them. -/
theorem results_of_evaluateMany {results out : List (String × Handle)}
    (hresults : ∀ e ∈ results, s.cache.get? e.1 = some e.2)
    (h : evaluateMany g nodes results s = (.ok out, after)) :
    (∀ e ∈ out, after.cache.get? e.1 = some e.2) ∧
      out.map Prod.fst =
        results.map Prod.fst ++ ((nodes.map g.id).filter (· ∉ results.map Prod.fst)).eraseDups := by
  induction nodes generalizing s results with
  | nil =>
    cases h
    exact ⟨hresults, by simp⟩
  | cons i rest ih =>
    rw [evaluateMany] at h
    split at h
    · cases h
    · rename_i handle mid heval
      have hkept : ∀ e ∈ putResult results (g.id i) handle, mid.cache.get? e.1 = some e.2 := by
        intro e he
        rcases mem_putResult he with he | rfl
        · have hget := get?_evaluateNode (g := g) (i := i) (hresults e he)
          rwa [heval] at hget
        · exact get?_of_evaluateNode heval
      obtain ⟨hout, hnames⟩ := ih hkept h
      refine ⟨hout, ?_⟩
      rw [hnames, names_putResult, List.map_cons]
      by_cases hid : g.id i ∈ results.map Prod.fst
      · rw [if_pos hid, List.filter_cons_of_neg (by simpa using hid)]
      · rw [if_neg hid, List.filter_cons_of_pos (by simpa using hid), List.eraseDups_cons, List.filter_filter,
          List.append_assoc, List.singleton_append]
        congr 3
        refine List.filter_congr fun id _ => ?_
        rw [Bool.eq_iff_iff]
        simp [and_comm]

/-- The evaluation of the roots of a forest, some nodes having been evaluated before. -/
def evaluateForest (g : Graph) (before roots : List (Fin g.size)) (s : Session) :
    Outcome (List (String × Handle)) :=
  evaluateMany g roots [] (s.after (before.map (.evaluateNode g)))

/-- Evaluating the roots of a forest only appends features. -/
lemma extends_evaluateForest (before roots : List (Fin g.size)) (s : Session) :
    s.space.Extends (evaluateForest g before roots s).2.space := by
  have hbefore : s.space.Extends (s.after (before.map (.evaluateNode g))).space := by
    induction before generalizing s with
    | nil => exact .refl _
    | cons i rest ih =>
      have hfirst := (kept_extends s.space).evaluateNode (g := g) i (.refl _)
      rw [← respond_evaluateNode] at hfirst
      exact hfirst.trans (ih _)
  exact (kept_extends s.space).evaluateMany roots [] hbefore

/-- Evaluating the roots of a forest changes nothing in what a session analyses. -/
lemma Analyses.evaluateForest (hs : Analyses checker places f valid s) (before roots : List (Fin g.size)) :
    Analyses checker places f valid (evaluateForest g before roots s).2 :=
  Analyses.kept.evaluateMany roots [] (hs.after _)

section Forest

variable {before : List (Fin g.size)} (hs : Analyses checker places f valid s) (hempty : s.cache.entries = [])
  (hforest : g.Forest roots) (hbefore : ∀ i ∈ before, g.Under roots i)

include hs hempty hforest hbefore

/-- After the roots of a forest were evaluated the session is settled for all of them. -/
lemma settled_evaluateForest :
    ∀ root ∈ roots, Settled checker valid g root s.space (evaluateForest g before roots s).2 :=
  settled_evaluateMany hs.wellFormed hforest
    (settled_after hs.wellFormed hforest (fun _ _ => .of_empty hs hempty) hbefore) (fun _ => .of_mem) []

/-- What an evaluation of the roots of a forest returns: one entry for each id, in the order in which the ids first
appear, which for a root is a right diagram of it. -/
lemma right_of_evaluateForest {results : List (String × Handle)}
    (h : (evaluateForest g before roots s).1 = .ok results) :
    results.map Prod.fst = (roots.map g.id).eraseDups ∧
      ∀ root ∈ roots, ∃ handle, results.lookup (g.id root) = some handle ∧
        Right checker valid g (evaluateForest g before roots s).2.space root handle.diagram ∧
        handle.diagram.Canonical (evaluateForest g before roots s).2.space ∧
        g.Evaluable checker valid (evaluateForest g before roots s).2.space root := by
  have hsettled := settled_evaluateForest hs hempty hforest hbefore
  obtain ⟨hcached, hnames⟩ := results_of_evaluateMany (by simp) (Prod.ext h rfl)
  have hnames : results.map Prod.fst = (roots.map g.id).eraseDups := by simpa using hnames
  refine ⟨hnames, fun root hroot => ?_⟩
  have hid : g.id root ∈ results.map Prod.fst := by
    rw [hnames, List.mem_eraseDups]
    exact List.mem_map.2 ⟨root, hroot, rfl⟩
  obtain ⟨handle, hlookup⟩ : ∃ handle, results.lookup (g.id root) = some handle := by
    rw [← Option.isSome_iff_exists, List.lookup_isSome_iff]
    obtain ⟨e, he, hid⟩ := List.mem_map.1 hid
    exact ⟨e, he, by simpa using hid.symm⟩
  have hget := hcached _ (mem_of_lookup hlookup)
  obtain ⟨hcanonical, hevaluable⟩ := (hsettled root hroot).cached root .refl handle hget
  exact ⟨handle, hlookup, (hsettled root hroot).evaluated.cached root .refl handle hget, hcanonical, hevaluable⟩

/-- The roots of a forest can be evaluated exactly if each of them is evaluable, whatever was evaluated before. -/
theorem evaluateForest_ok_iff :
    (∃ results, (evaluateForest g before roots s).1 = .ok results) ↔
      ∀ root ∈ roots, g.Evaluable checker valid s.space root := by
  constructor
  · rintro ⟨results, h⟩ root hroot
    obtain ⟨-, hright⟩ := right_of_evaluateForest hs hempty hforest hbefore h
    obtain ⟨handle, -, -, -, hevaluable⟩ := hright root hroot
    have hgrown := (settled_evaluateForest hs hempty hforest hbefore root hroot).extends_base
    exact evaluable_of_concordant hs hs (.of_forest hforest hroot s s) .refl hgrown hevaluable
  · intro hevaluable
    exact exists_evaluateMany hs.wellFormed hforest
      (settled_after hs.wellFormed hforest (fun _ _ => .of_empty hs hempty) hbefore)
        (fun _ => .of_mem) hevaluable []

end Forest

/-- A session of a product line that has been used in any way and has nothing cached. -/
inductive Prepared (checker : Checker) (places : Option Nat) (source : String) : Session → Prop where
  | used {settings : Settings} {serial : Nat} {builder : Option Builder} {s : Session} {calls : List Call}
      (hstart : start settings serial source checker builder = .ok s) (hplaces : settings.places = places)
      (hempty : (s.after calls).cache.entries = []) :
    Prepared checker places source (s.after calls)

/-- A prepared session has nothing cached and analyses the products of its formula. -/
lemma Prepared.analyses (h : Prepared checker places source s) :
    s.cache.entries = [] ∧ ∃ f valid, Formula.ofText source = .ok f ∧ Analyses checker places f valid s := by
  cases h with
  | @used settings serial builder s calls hstart hplaces hempty =>
    obtain ⟨f, hf, hs⟩ := Analyses.of_start hstart
    rw [hplaces] at hs
    exact ⟨hempty, f, _, hf, hs.after calls⟩

/-- Another forest may be evaluated after the session was reset. -/
lemma Prepared.reset (h : Prepared checker places source s) (before roots : List (Fin g.size)) :
    Prepared checker places source (evaluateForest g before roots s).2.reset := by
  cases h with
  | @used settings serial builder s calls hstart hplaces hempty =>
    have hcalls : s.after (calls ++ (before.map (.evaluateNode g) ++ [.evaluateMany g roots, .reset])) =
        (evaluateForest g before roots (s.after calls)).2.reset := by
      have hrespond (s : Session) : ((Call.evaluateMany g roots).respond s).2 = (evaluateMany g roots [] s).2 := by
        rw [Call.respond]
        split
        · rename_i h
          rw [h]
        · rename_i h
          rw [h]
      rw [Session.after, List.foldl_append, List.foldl_append, List.foldl_cons, hrespond]
      rfl
    rw [← hcalls]
    exact .used hstart hplaces (by rw [hcalls]; rfl)

/-- A root is evaluable in one session exactly if it is in another one where children are listed otherwise. -/
lemma evaluable_iff_rearrange {children : Fin g.size → List (Fin g.size)} (hs : Analyses checker places f valid s)
    (ht : Analyses checker places f valid' t) (hforest : g.Forest roots)
    (hperm : ∀ i, (children i).Perm (g.children i)) (hroot : root ∈ roots) :
    g.Evaluable checker valid s.space root ↔ (g.rearrange children).Evaluable checker valid' t.space root := by
  rw [Graph.evaluable_rearrange hperm (hforest.wellFormed (.of_mem hroot)) .refl]
  exact ⟨evaluable_of_concordant ht hs (.of_forest hforest hroot t s) .refl (.refl _),
    evaluable_of_concordant hs ht (.of_forest hforest hroot s t) .refl (.refl _)⟩

/-- Canonical diagrams that are equal at every product are one diagram if one feature space goes on from the
other. -/
lemma eq_of_evaluate {space later : FeatureSpace} (hlater : later.features.Nodup) (hgrown : space.Extends later)
    {handle handle' : Handle} (hcanonical : handle.diagram.Canonical space)
    (hcanonical' : handle'.diagram.Canonical later) (hnan : handle.diagram.hasNaN = false)
    (hnan' : handle'.diagram.hasNaN = false)
    (hvalue : ∀ x, handle.diagram.evaluate space x = handle'.diagram.evaluate later x) :
    handle.diagram = handle'.diagram ∧ handle.equal handle' = true := by
  have hsame : handle.diagram = handle'.diagram := by
    refine Diagram.Canonical.ext hlater (hcanonical.mono hgrown) hcanonical' hnan hnan' fun x => ?_
    rw [hcanonical.evaluate_later hgrown, hvalue]
  exact ⟨hsame, by simp [Handle.equal, hsame, hnan']⟩

/-- Whether two evaluations of the roots of a forest agree. Both fail, or both succeed with diagrams of each
root that are equal at every product, and are the same diagram if the second evaluation goes on in the feature
space of the first. -/
structure Outcome.Concurs (g : Graph) (roots : List (Fin g.size)) (o p : Outcome (List (String × Handle))) :
    Prop where
  success : (∃ results, o.1 = .ok results) ↔ ∃ results, p.1 = .ok results
  values : ∀ results results', o.1 = .ok results → p.1 = .ok results' → ∀ root ∈ roots, ∃ handle handle',
    results.lookup (g.id root) = some handle ∧ results'.lookup (g.id root) = some handle' ∧
      (∀ x, handle.diagram.evaluate o.2.space x = handle'.diagram.evaluate p.2.space x) ∧
      (o.2.space.Extends p.2.space → handle.diagram.hasNaN = false → handle'.diagram.hasNaN = false →
        handle.diagram = handle'.diagram ∧ handle.equal handle' = true)

/-- The evaluations of the roots of a forest agree whatever the settings say about the order of the features,
whatever the order of the roots and of the children, and whatever nodes were evaluated before. Each returns
one entry for each id of a root, in the order in which the ids first appear. -/
theorem evaluateForest_agrees {children : Fin g.size → List (Fin g.size)}
    {roots' before before' : List (Fin g.size)}
    (hs : Prepared checker places source s) (ht : Prepared checker places source t) (hforest : g.Forest roots)
    (hroots : ∀ i, i ∈ roots' ↔ i ∈ roots) (hperm : ∀ i, (children i).Perm (g.children i))
    (hbefore : ∀ i ∈ before, g.Under roots i) (hbefore' : ∀ i ∈ before', g.Under roots i) :
    (evaluateForest g before roots s).Concurs g roots (evaluateForest (g.rearrange children) before' roots' t) ∧
      (∀ results, (evaluateForest g before roots s).1 = .ok results →
        results.map Prod.fst = (roots.map g.id).eraseDups) ∧
      ∀ results, (evaluateForest (g.rearrange children) before' roots' t).1 = .ok results →
        results.map Prod.fst = (roots'.map g.id).eraseDups := by
  obtain ⟨hempty, f, valid, hf, hs⟩ := hs.analyses
  obtain ⟨hempty', f', valid', hf', ht⟩ := ht.analyses
  obtain rfl := Except.ok.inj (hf.symm.trans hf')
  -- a rearranged graph has the same nodes below the same roots, so each side is one evaluation of a forest
  have hforest' := (hforest.congr hroots).rearrange hperm
  have hunder : ∀ i ∈ before', (g.rearrange children).Under roots' i := by
    intro i hi
    obtain ⟨root, hroot, hreach⟩ := hbefore' i hi
    rw [Graph.Forest.under_rearrange hperm]
    exact ⟨root, (hroots root).2 hroot, hreach⟩
  have hevaluable : (∀ root ∈ roots, g.Evaluable checker valid s.space root) ↔
      ∀ root ∈ roots', (g.rearrange children).Evaluable checker valid' t.space root :=
    forall_congr' fun root => by
      rw [hroots]
      exact forall_congr' fun hroot => evaluable_iff_rearrange hs ht hforest hperm hroot
  refine ⟨⟨?_, ?_⟩, fun results h => (right_of_evaluateForest hs hempty hforest hbefore h).1, fun results h => ?_⟩
  · rw [evaluateForest_ok_iff hs hempty hforest hbefore, evaluateForest_ok_iff ht hempty' hforest' hunder,
      hevaluable]
  · intro results results' h h' root hroot
    obtain ⟨-, hfirst⟩ := right_of_evaluateForest hs hempty hforest hbefore h
    obtain ⟨-, hsecond⟩ := right_of_evaluateForest ht hempty' hforest' hunder h'
    obtain ⟨handle, hlookup, hright, hcanonical, -⟩ := hfirst root hroot
    obtain ⟨handle', hlookup', hright', hcanonical', hevaluable'⟩ := hsecond root ((hroots root).2 hroot)
    have hsettled := settled_evaluateForest hs hempty hforest hbefore root hroot
    have hsettled' := settled_evaluateForest ht hempty' hforest' hunder root ((hroots root).2 hroot)
    have hwf := hforest.wellFormed (.of_mem hroot)
    rw [Graph.evaluable_rearrange hperm hwf .refl] at hevaluable'
    rw [right_rearrange hperm hwf .refl] at hright'
    rw [Graph.id_rearrange] at hlookup'
    have husable : ∀ c, Relation.TransGen g.Child root c → (g.node c).presence.Usable t.space.owner := by
      intro c hc
      rw [← hsettled'.extends_base.owner]
      exact hevaluable'.presence c hc
    have hvalue : ∀ x, handle.diagram.evaluate (evaluateForest g before roots s).2.space x =
        handle'.diagram.evaluate (evaluateForest (g.rearrange children) before' roots' t).2.space x :=
      evaluate_of_concordant (hs.evaluateForest before roots) ht (.of_forest hforest hroot _ t) .refl
        hsettled'.extends_base husable hright hright'
    exact ⟨handle, handle', hlookup, hlookup', hvalue, fun hgrown hnan hnan' =>
      eq_of_evaluate hsettled'.canonical.nodup hgrown hcanonical hcanonical' hnan hnan' hvalue⟩
  · have hnames := (right_of_evaluateForest ht hempty' hforest' hunder h).1
    rwa [Graph.ids_rearrange] at hnames

end Session

/-! Two roots that share a child -/

namespace Graph

/-- The presence conditions of the graph with two roots are formulas. -/
lemma exists_presence_twin (i : Fin 4) :
    ∃ text f, (twin.node i).presence = .formula text ∧ Formula.ofText text = .ok f := by
  have hb : Formula.ofText "b" = .ok (.feature "b") := by decide +kernel
  rcases cases_twin i with rfl | rfl | rfl | rfl
  · exact ⟨"a", _, rfl, Session.ofText_feature⟩
  · exact ⟨"a", _, rfl, Session.ofText_feature⟩
  · exact ⟨"a", _, rfl, Session.ofText_feature⟩
  · exact ⟨"b", _, rfl, hb⟩

/-- All nodes of the graph with two roots are the roots of a forest. -/
lemma forest_twin (roots : List (Fin 4)) : twin.Forest roots := by
  refine ⟨fun i _ => not_transGen_twin i, fun i j _ _ hid => id_twin_injective hid, ?_⟩
  intro i _
  obtain ⟨text, f, htext, -⟩ := exists_presence_twin i
  exact ⟨text, htext⟩

/-- Every one of these nodes has a reliability at every product. -/
lemma exists_valueAt_twin (owner : Owner) (valid : Binary64) (space : FeatureSpace) (x : String → Bool)
    (i : Fin 4) : ∃ v, twin.valueAt Checker.plain owner valid (twin.presentAt space x) [] i = .ok v := by
  obtain ⟨w, hnumber⟩ := Session.exists_parse_number
  have hleaf {path : List (Fin 4)} {j : Fin 4} (hj : j ∉ path)
      (hchecker : Checker.plain (twin.node j).model = .ok "0.5") :
      ∃ v, twin.valueAt Checker.plain owner valid (twin.presentAt space x) path j = .ok v := by
    rw [valueAt_eq hj hchecker hnumber, Expression.scalar]
    exact ⟨_, rfl⟩
  have hnamed {j c : Fin 4} {text : String} (hchecker : Checker.plain (twin.node j).model = .ok text)
      (hparse : Expression.parse text = .ok (.name text))
      (hfind : (twin.children j).find? (twin.id · = text) = some c)
      (hc : c ∉ [j]) (hmodel : Checker.plain (twin.node c).model = .ok "0.5") :
      ∃ v, twin.valueAt Checker.plain owner valid (twin.presentAt space x) [] j = .ok v := by
    obtain ⟨v, hv⟩ := hleaf hc hmodel
    obtain ⟨formula, f, hformula, hf⟩ := exists_presence_twin c
    have hpresent : twin.presentAt space x c = .ok (if f.holds x then .one else .zero) := by
      rw [presentAt, hformula, Presence.valueAt, hf]
      rfl
    rw [valueAt_eq List.not_mem_nil hchecker hparse, Expression.scalar, hfind]
    simp only [childAt, hpresent, hv]
    exact ⟨_, rfl⟩
  have hfirst : Expression.parse "c" = .ok (.name "c") := by decide +kernel
  have hsecond : Expression.parse "d" = .ok (.name "d") := by decide +kernel
  rcases cases_twin i with rfl | rfl | rfl | rfl
  · exact hnamed (c := 2) rfl hfirst (by decide) (by decide) rfl
  · exact hnamed (c := 3) rfl hsecond (by decide) (by decide) rfl
  · exact hleaf List.not_mem_nil rfl
  · exact hleaf List.not_mem_nil rfl

/-- All nodes of the graph with two roots are evaluable. -/
lemma evaluable_twin (valid : Diagram) (space : FeatureSpace) (i : Fin 4) :
    twin.Evaluable Checker.plain valid space i := by
  refine ⟨fun c _ => ?_, fun j _ later _ x => exists_valueAt_twin _ _ later x j⟩
  obtain ⟨text, f, htext, hf⟩ := exists_presence_twin c
  rw [htext]
  exact ⟨f, hf⟩

end Graph

namespace Session

/-- The theorem applies, for example, to two roots that share a child, with the children the other way round,
the shared one evaluated before, the second root first and again last, and another feature declared first, or
all this in the same session after a reset. -/
theorem evaluateForest_agrees_twin : ∃ s t results results',
    let turned := Graph.twin.rearrange fun i => (Graph.twin.children i).reverse
    let first := evaluateForest Graph.twin [] [(0 : Fin 4), 1] s
    let second := evaluateForest turned [(3 : Fin 4)] [(1 : Fin 4), 0, 1] t
    let again := evaluateForest turned [(3 : Fin 4)] [(1 : Fin 4), 0, 1] first.2.reset
    start .standard 0 "a" Checker.plain none = .ok s ∧
    start { Settings.standard with order := ["b"] } 1 "a" Checker.plain none = .ok t ∧
    first.1 = .ok results ∧ second.1 = .ok results' ∧ first.Concurs Graph.twin [(0 : Fin 4), 1] second ∧
    results.map Prod.fst = ["r", "q"] ∧ results'.map Prod.fst = ["q", "r"] ∧
    first.Concurs Graph.twin [(0 : Fin 4), 1] again ∧ first.2.space.Extends again.2.space := by
  obtain ⟨s, hs⟩ := exists_start .standard 0 ofText_feature Checker.plain none
  obtain ⟨t, ht⟩ := exists_start { Settings.standard with order := ["b"] } 1 ofText_feature Checker.plain none
  have hempty {settings : Settings} {serial : Nat} {s : Session}
      (h : start settings serial "a" Checker.plain none = .ok s) : s.cache.entries = [] := by
    obtain ⟨_, _, hcache, _⟩ := started h
    rw [hcache]
    rfl
  have hprepared : Prepared Checker.plain (some 12) "a" (s.after []) := .used hs rfl (hempty hs)
  have hprepared' : Prepared Checker.plain (some 12) "a" (t.after []) := .used ht rfl (hempty ht)
  have hroots : ∀ i, i ∈ [(1 : Fin 4), 0, 1] ↔ i ∈ [(0 : Fin 4), 1] := by decide
  have hperm : ∀ i, ((Graph.twin.children i).reverse).Perm (Graph.twin.children i) := fun i => List.reverse_perm _
  have hforest := Graph.forest_twin [(0 : Fin 4), 1]
  have hnone : ∀ i ∈ ([] : List (Fin 4)), Graph.twin.Under [(0 : Fin 4), 1] i := by simp
  have hbefore : ∀ i ∈ [(3 : Fin 4)], Graph.twin.Under [(0 : Fin 4), 1] i := by
    intro i hi
    have hchild : (3 : Fin 4) ∈ Graph.twin.children (1 : Fin 4) := by decide
    rw [List.mem_singleton.1 hi]
    exact ⟨1, by simp, .single hchild⟩
  obtain ⟨hconcurs, hnames, hnames'⟩ :=
    evaluateForest_agrees hprepared hprepared' hforest hroots hperm hnone hbefore
  -- both succeed, as every node is evaluable
  obtain ⟨hfirst, f, valid, -, hanalyses⟩ := hprepared.analyses
  obtain ⟨results, hresults⟩ := (evaluateForest_ok_iff hanalyses hfirst hforest hnone).2
    fun root _ => Graph.evaluable_twin valid _ root
  obtain ⟨results', hresults'⟩ := hconcurs.success.1 ⟨results, hresults⟩
  have hreset := hprepared.reset (g := Graph.twin) [] [(0 : Fin 4), 1]
  obtain ⟨hagain, -⟩ := evaluateForest_agrees hprepared hreset hforest hroots hperm hnone hbefore
  refine ⟨s, t, results, results', hs, ht, hresults, hresults', hconcurs, ?_, ?_, hagain, ?_⟩
  · rw [hnames results hresults]
    decide
  · rw [hnames' results' hresults']
    decide
  · exact extends_evaluateForest _ _ (evaluateForest Graph.twin [] [(0 : Fin 4), 1] s).2.reset

end Session

end ProductLine
