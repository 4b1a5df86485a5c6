import Mathlib.Data.List.Nodup
import Mathlib.Tactic.Common
import ProductLine.Proofs.Error
import ProductLine.Proofs.Graph.Search
import ProductLine.Proofs.Session.Calls

/-!
# The order of evaluation

An evaluation that succeeds is a search in depth: it computes exactly the nodes that the search finishes, in
the order in which it does, asks the checker once for each, and adds exactly their ids to the cache
(`visit_ok`). A node is computed only when all its children are cached and its own id is not (`Ready`), so the
guards against computing a node twice or too early never fail, and an evaluation fails only at such a node or
at a cycle of ids (`visit_error`).
-/

namespace ProductLine

namespace Session

/-- Whether the session after an evaluation is the one before it with exactly the given nodes computed: each was
shown to the checker once and has one result in the cache that was not there before. -/
structure Progress (g : Graph) (s after : Session) (order : List (Fin g.size)) : Prop where
  checker : after.checker = s.checker
  entries : ∃ new, after.cache.entries = s.cache.entries ++ new ∧ new.map Prod.fst = order.map g.id
  evaluated : after.trace.evaluated = s.trace.evaluated ++ order.map g.id
  asked : after.trace.asked = s.trace.asked ++ order.map fun i => (g.node i).model
  nodup : (order.map g.id).Nodup
  fresh : ∀ i ∈ order, g.id i ∉ s.cache.ids

namespace Progress

variable {g : Graph} {s mid after : Session} {order : List (Fin g.size)}

/-- What progress adds to the cached ids are the ids of the nodes computed, in order. -/
lemma ids (h : Progress g s after order) : after.cache.ids = s.cache.ids ++ order.map g.id := by
  obtain ⟨new, hnew, hids⟩ := h.entries
  rw [Cache.ids, hnew, List.map_append, hids]
  rfl

/-- The progress of two runs is made in the order of the runs. -/
lemma trans {order' : List (Fin g.size)} (h : Progress g s mid order) (h' : Progress g mid after order') :
    Progress g s after (order ++ order') := by
  obtain ⟨new, hnew, hids⟩ := h.entries
  obtain ⟨new', hnew', hids'⟩ := h'.entries
  have hfresh : ∀ i ∈ order', g.id i ∉ s.cache.ids ∧ g.id i ∉ order.map g.id := by
    intro i hi
    have hnot := h'.fresh i hi
    rw [h.ids, List.mem_append, not_or] at hnot
    exact hnot
  refine ⟨h'.checker.trans h.checker, ⟨new ++ new', ?_, ?_⟩, ?_, ?_, ?_, ?_⟩
  · rw [hnew', hnew, List.append_assoc]
  · rw [List.map_append, List.map_append, hids, hids']
  · rw [h'.evaluated, h.evaluated, List.map_append, List.append_assoc]
  · rw [h'.asked, h.asked, List.map_append, List.append_assoc]
  · rw [List.map_append]
    refine List.nodup_append.2 ⟨h.nodup, h'.nodup, ?_⟩
    rintro a ha _ hb rfl
    obtain ⟨i, hi, rfl⟩ := List.mem_map.1 hb
    exact (hfresh i hi).2 ha
  · intro i hi
    rcases List.mem_append.1 hi with hi | hi
    · exact h.fresh i hi
    · exact (hfresh i hi).1

end Progress

/-- A lookup computes nothing. -/
lemma progress_look {g : Graph} {s after : Session} (h : Progress g s after []) (id : String) :
    Progress g s (after.look id).2 [] := by
  obtain ⟨cache, hits, hlook, hentries⟩ := after.look_snd id
  rw [hlook]
  exact ⟨h.checker, by rw [hentries]; exact h.entries, h.evaluated, h.asked, h.nodup, h.fresh⟩

/-- Nothing is computed between a session and itself. -/
lemma Progress.refl (g : Graph) (s : Session) : Progress g s s [] :=
  ⟨rfl, ⟨[], by simp⟩, by simp, by simp, by simp, by simp⟩

/-- Scanning children computes nothing. -/
lemma progress_scan {g : Graph} {path : List String} {cs pending : List (Fin g.size)} {s after : Session}
    {r : Except Error (List (Fin g.size))} (h : scan g path cs pending s = (r, after)) : Progress g s after [] := by
  have hscanned :=
    scan_keeps (I := fun t => Progress g s t []) (fun _ id ht => progress_look ht id) g path cs pending
    (.refl g s)
  rwa [h] at hscanned

/-- A node that is completed is computed once, and nothing else is. -/
lemma progress_complete {g : Graph} {i : Fin g.size} {s after : Session} (h : complete g i s = (.ok (), after)) :
    Progress g s after [i] := by
  obtain ⟨hnew, _⟩ := complete_ok h
  cases completed_of_complete h with
  | @recorded d mid cache hcompute hput =>
    obtain ⟨_, rfl⟩ := Cache.put_ok hput
    cases computed_of_compute hcompute with
    | @solved _ bindings _ _ _ _ hbind =>
      obtain ⟨space, presences, warnings, supply, hmid⟩ :=
        bindChildren_snd (g.id i) (g.children i) [] (s.ask (g.node i).model).2
      rw [hbind] at hmid
      have hmid : mid = _ := hmid
      rw [hmid]
      exact ⟨rfl, ⟨[(g.id i, _)], rfl, rfl⟩, rfl, rfl, by simp, by simpa using hnew⟩

/-- Whether a node is not cached and its children are. -/
structure Ready (g : Graph) (i : Fin g.size) (s : Session) : Prop where
  new : g.id i ∉ s.cache.ids
  children : ∀ c ∈ g.children i, g.id c ∈ s.cache.ids

/-- To search the children that were not found is to search all children. -/
lemma visited_children {g : Graph} {path : List String} {i : Fin g.size} {pending : List (Fin g.size)}
    {s mid after : Session} (hscan : scan g path (g.children i).reverse [] s = (.ok pending, mid))
    (h : ∃ below, g.Explored path mid.cache.ids pending below ∧ Progress g mid after below) :
    ∃ below, g.Explored path s.cache.ids (g.children i) below ∧ Progress g s after below := by
  obtain ⟨below, hbelow, hprogress⟩ := h
  have hscanned := progress_scan hscan
  have hids : mid.cache.ids = s.cache.ids := by simpa using hscanned.ids
  rw [pending_eq hscan, hids, Graph.Explored.filter_iff fun _ hid => hid] at hbelow
  exact ⟨below, hbelow, hscanned.trans hprogress⟩

/-- An evaluation that succeeds is a search, and computes the nodes that the search finishes in its order. -/
theorem visit_ok {g : Graph} {path : List String} {nodes : List (Fin g.size)} {s after : Session}
    (h : visit g path nodes s = (.ok (), after)) :
    ∃ order, g.Explored path s.cache.ids nodes order ∧ Progress g s after order := by
  induction path, nodes, s using visit.induct g generalizing after with
  | case1 path s =>
    rw [visit_nil] at h
    cases h
    exact ⟨[], .nil, .refl g s⟩
  | case2 path i rest s hcached ih =>
    rw [visit_cached hcached] at h
    obtain ⟨order, hsearch, hprogress⟩ := ih h
    exact ⟨order, .seen (Cache.contains_iff.1 hcached) hsearch, hprogress⟩
  | case3 path i rest s hcached hi =>
    rw [visit_closing hcached hi] at h
    cases h
  | case4 path i rest s hcached hi e mid hscan =>
    rw [visit_of_scan_error hcached hi hscan] at h
    cases h
  | case5 path i rest s hcached hi pending mid hscan ih₁ ih₂ =>
    rw [visit_of_scan_ok hcached hi hscan] at h
    obtain ⟨s₁, hvisit, h⟩ := Outcome.andThen_eq_ok.1 h
    obtain ⟨s₂, hcomplete, hrest⟩ := Outcome.andThen_eq_ok.1 h
    obtain ⟨below, hbelow, hprogress⟩ := visited_children hscan (ih₁ hvisit)
    -- the other nodes are searched with everything done that was computed before them
    obtain ⟨order, hsearch, hprogress'⟩ := ih₂ s₂ hrest
    have hdone := hprogress.trans (progress_complete hcomplete)
    rw [hdone.ids] at hsearch
    have hnew : g.id i ∉ s.cache.ids := fun hmem => hcached (Cache.contains_iff.2 hmem)
    exact ⟨below ++ [i] ++ order, .new hnew hi hbelow hsearch, hdone.trans hprogress'⟩

/-- A lookup in a fresh trace leaves an evaluation with nothing done. -/
lemma progress_start {g : Graph} {i : Fin g.size} {s mid : Session} {r : Option Handle}
    (h : { s with trace := .empty }.look (g.id i) = (r, mid)) :
    Progress g { s with trace := .empty } mid [] := by
  have hstart := progress_look (.refl g { s with trace := .empty }) (g.id i)
  rwa [h] at hstart

/-- The evaluation of a node that succeeds is a search from it. -/
lemma evaluateNode_ok {g : Graph} {i : Fin g.size} {s after : Session} {handle : Handle}
    (h : evaluateNode g i s = (.ok handle, after)) :
    ∃ order, g.Explored [] s.cache.ids [i] order ∧ Progress g { s with trace := .empty } after order := by
  cases answered_of_evaluateNode h with
  | found hlook =>
    have hget := get?_of_look hlook
    have hcached : g.id i ∈ s.cache.ids := Cache.mem_ids_iff.2 ⟨handle, hget⟩
    exact ⟨[], .seen hcached .nil, progress_start hlook⟩
  | visited hlook hvisit hget =>
    have hstart := progress_start hlook
    obtain ⟨order, hsearch, hprogress⟩ := visit_ok hvisit
    rw [hstart.ids, List.map_nil, List.append_nil] at hsearch
    exact ⟨order, hsearch, hstart.trans hprogress⟩

/-! Failures -/

/-- Encoding a presence condition fails with no error of an evaluation. -/
lemma not_ofEvaluation_encodePresence {s : Session} {id text : String} {e : Error}
    (h : (s.encodePresence id text).1 = .error e) : ¬ e.OfEvaluation := by
  rw [encodePresence] at h
  split at h
  · rename_i hencode
    cases h
    exact FeatureSpace.not_ofEvaluation_encode (congrArg Prod.fst hencode)
  · cases h

/-- Asking for a presence condition fails with no error of an evaluation. -/
lemma not_ofEvaluation_presence {α : Type} {s : Session} {node : Node α} {e : Error}
    (h : (s.presence node).1 = .error e) : ¬ e.OfEvaluation := by
  rw [presence] at h
  split at h
  · simp only at h
    split at h
    · cases h
    · cases h
      exact id
  · split at h
    · cases h
    · exact not_ofEvaluation_encodePresence h

/-- Binding children that are all cached does not fail for the lack of one. -/
lemma not_ofEvaluation_bindChildren {g : Graph} {parent : String} {cs : List (Fin g.size)}
    {bindings : Expression.Bindings} {s after : Session} {e : Error} (hcs : ∀ c ∈ cs, g.id c ∈ s.cache.ids)
    (h : bindChildren g parent cs bindings s = (.error e, after)) : ¬ e.OfEvaluation := by
  induction cs generalizing bindings s with
  | nil => cases h
  | cons c rest ih =>
    have hcached := Cache.contains_iff.2 (hcs c List.mem_cons_self)
    rw [bindChildren] at h
    split at h
    · rename_i hnone
      rw [Cache.contains, hnone] at hcached
      cases hcached
    · have hcache := cache_presence s (g.node c)
      split at h
      · rename_i hp
        cases h
        exact not_ofEvaluation_presence (congrArg Prod.fst hp)
      · rename_i hp
        rw [hp] at hcache
        refine ih (fun d hd => ?_) h
        rw [show _ = s.cache from hcache]
        exact hcs d (List.mem_cons_of_mem c hd)

/-- If a node that is ready fails with an error of an evaluation, the checker raised it. -/
lemma checker_of_complete {g : Graph} {i : Fin g.size} {s : Session} {e : Error} (hready : Ready g i s)
    (h : (complete g i s).1 = .error e) (he : e.OfEvaluation) : s.checker (g.node i).model = .error e := by
  generalize hout : complete g i s = out at h
  obtain ⟨r, after⟩ := out
  obtain rfl : r = .error e := h
  cases completed_of_complete hout with
  | failed hcompute =>
    cases computed_of_compute hcompute with
    | unchecked hchecker => exact hchecker
    | unbound _ hbind => exact absurd he (not_ofEvaluation_bindChildren (s := (s.ask _).2) hready.children hbind)
    | unread _ _ hparse => exact absurd he (Expression.not_ofEvaluation_parse hparse)
    | unsolved _ _ _ hsolve => exact absurd he (Expression.not_ofEvaluation_solve hsolve)
  | @refused d _ mid hcompute hput =>
    have hcache := cache_compute g i s
    rw [hcompute] at hcache
    have hcache : mid.cache = s.cache := hcache
    rw [hcache, Cache.put, if_neg (fun hmem => hready.new (Cache.contains_iff.1 hmem))] at hput
    cases hput

/-- The same for a node that is ready in the course of an evaluation, which leaves the checker as it is. -/
lemma checker_of_ready {g : Graph} {i : Fin g.size} {order : List (Fin g.size)} {s mid : Session} {e : Error}
    (hprogress : Progress g { s with trace := .empty } mid order) (hready : Ready g i mid)
    (h : (complete g i mid).1 = .error e) (he : e.OfEvaluation) : s.checker (g.node i).model = .error e := by
  rw [show s.checker = mid.checker from hprogress.checker.symm]
  exact checker_of_complete hready h he

/-- How the evaluation of nodes below a root can fail: at a cycle of ids, and then they cannot be searched, or at a
node that is ready after some others were computed. -/
inductive Stuck (g : Graph) (root : Fin g.size) (path : List String) (nodes : List (Fin g.size)) (s : Session) :
    Error → Prop where
  | closed {p : List String} (hcycle : g.IsCycle root p)
      (hsearch : Graph.Apart path s.cache.ids → ∀ order, ¬ g.Explored path s.cache.ids nodes order) :
    Stuck g root path nodes s (.cycle p)
  | node {i : Fin g.size} {order : List (Fin g.size)} {mid : Session} {e : Error} (hi : g.Reaches root i)
      (hprogress : Progress g s mid order) (hready : Ready g i mid) (hfail : (complete g i mid).1 = .error e) :
    Stuck g root path nodes s e

namespace Stuck

variable {g : Graph} {root i : Fin g.size} {path : List String} {nodes rest below pending : List (Fin g.size)}
  {s mid : Session} {e : Error}

/-- A failure is one of more nodes if to search these is to search the failing ones too. -/
lemma mono {path' : List String} {nodes' order : List (Fin g.size)} (h : Stuck g root path nodes mid e)
    (hprogress : Progress g s mid order)
    (hsearch : Graph.Apart path' s.cache.ids → ∀ order, g.Explored path' s.cache.ids nodes' order →
      Graph.Apart path mid.cache.ids ∧ ∃ order, g.Explored path mid.cache.ids nodes order) :
    Stuck g root path' nodes' s e := by
  cases h with
  | closed hcycle hnot =>
    refine .closed hcycle fun hapart order h => ?_
    obtain ⟨hapart', order', h'⟩ := hsearch hapart order h
    exact hnot hapart' order' h'
  | node hi hmid hready hfail => exact .node hi (hprogress.trans hmid) hready hfail

/-- What is stuck at a later node is stuck behind a node that is cached. -/
lemma later (hi : g.id i ∈ s.cache.ids) (h : Stuck g root path rest s e) : Stuck g root path (i :: rest) s e :=
  h.mono (.refl g s) fun hapart order hsearch => ⟨hapart, order, hsearch.of_seen hi⟩

/-- What fails among the children that were not found fails below their parent. -/
lemma above (hi : g.id i ∉ s.cache.ids)
    (hscan : scan g (path ++ [g.id i]) (g.children i).reverse [] s = (.ok pending, mid))
    (h : Stuck g root (path ++ [g.id i]) pending mid e) : Stuck g root path (i :: rest) s e := by
  have hids : mid.cache.ids = s.cache.ids := by simpa using (progress_scan hscan).ids
  refine h.mono (progress_scan hscan) fun hapart order hsearch => ?_
  obtain ⟨_, below, _, hbelow, _⟩ := hsearch.of_new hi
  rw [hids, pending_eq hscan]
  exact ⟨hapart.push hi, below, (Graph.Explored.filter_iff fun _ hid => hid).2 hbelow⟩

/-- What fails after a node was computed fails among this node and the others. -/
lemma after (hi : g.id i ∉ s.cache.ids) (hbelow : g.Explored (path ++ [g.id i]) s.cache.ids (g.children i) below)
    (hprogress : Progress g s mid (below ++ [i])) (h : Stuck g root path rest mid e) :
    Stuck g root path (i :: rest) s e := by
  refine h.mono hprogress fun hapart order hsearch => ?_
  obtain ⟨hpath, below', order', hbelow', hrest⟩ := hsearch.of_new hi
  obtain rfl := hbelow.unique hbelow'
  rw [hprogress.ids]
  exact ⟨hbelow.apart_finished hapart hpath, order', hrest⟩

end Stuck

/-- After its children were searched, a node is ready. -/
lemma ready_of_explored {g : Graph} {path : List String} {i : Fin g.size} {below : List (Fin g.size)}
    {s after : Session} (hi : g.id i ∉ s.cache.ids) (hpath : g.id i ∈ path)
    (hbelow : g.Explored path s.cache.ids (g.children i) below) (hprogress : Progress g s after below) :
    Ready g i after := by
  constructor
  · rw [hprogress.ids, List.mem_append, not_or]
    exact ⟨hi, hbelow.apart _ hpath⟩
  · rw [hprogress.ids]
    exact hbelow.postOrder.mem_done

/-- An evaluation fails only at a cycle of ids or at a node that is ready. -/
theorem visit_error {g : Graph} {root : Fin g.size} {path : List String} {trail nodes : List (Fin g.size)}
    {s after : Session} {e : Error} (htrail : ∀ i ∈ nodes, g.Trail root trail i) (hpath : trail.map g.id = path)
    (hnodup : path.Nodup) (h : visit g path nodes s = (.error e, after)) : Stuck g root path nodes s e := by
  induction path, nodes, s using visit.induct g generalizing trail after with
  | case1 path s =>
    rw [visit_nil] at h
    cases h
  | case2 path i rest s hcached ih =>
    rw [visit_cached hcached] at h
    exact (ih (fun j hj => htrail j (List.mem_cons_of_mem i hj)) hpath hnodup h).later
      (Cache.contains_iff.1 hcached)
  | case3 path i rest s hcached hi =>
    rw [visit_closing hcached hi] at h
    cases h
    subst hpath
    have hnew : g.id i ∉ s.cache.ids := fun hmem => hcached (Cache.contains_iff.2 hmem)
    exact .closed ((htrail i List.mem_cons_self).isCycle hnodup hi) fun _ order hsearch =>
      (hsearch.of_new hnew).1 hi
  | case4 path i rest s hcached hi e' mid hscan =>
    rw [visit_of_scan_error hcached hi hscan] at h
    cases h
    subst hpath
    obtain ⟨c, hc, hmem, rfl⟩ := scan_error hscan
    have hnew : g.id i ∉ s.cache.ids := fun hmem => hcached (Cache.contains_iff.2 hmem)
    have hchild : c ∈ g.children i := List.mem_reverse.1 hc
    have hmap : trail.map g.id ++ [g.id i] = (trail ++ [i]).map g.id := by simp
    refine .closed ?_ fun hapart order hsearch => ?_
    · have hlonger := nodup_append_id hnodup hi
      rw [hmap] at hmem hlonger ⊢
      exact ((htrail i List.mem_cons_self).next hchild).isCycle hlonger hmem
    · -- the child is looked up before the search comes to it, which is too early but no mistake
      obtain ⟨_, below, _, hbelow, _⟩ := hsearch.of_new hnew
      exact hbelow.not_mem_path_of_apart (hapart.push hnew) c hchild hmem
  | case5 path i rest s hcached hi pending mid hscan ih₁ ih₂ =>
    rw [visit_of_scan_ok hcached hi hscan] at h
    have hnew : g.id i ∉ s.cache.ids := fun hmem => hcached (Cache.contains_iff.2 hmem)
    have htrail' : ∀ c ∈ pending, g.Trail root (trail ++ [i]) c := by
      intro c hc
      rw [pending_eq hscan] at hc
      exact (htrail i List.mem_cons_self).next (List.mem_filter.1 hc).1
    rcases Outcome.andThen_eq_error.1 h with h | ⟨s₁, hvisit, h⟩
    · -- one of the children fails
      exact (ih₁ htrail' (by simp [hpath]) (nodup_append_id hnodup hi) h).above hnew hscan
    · obtain ⟨below, hbelow, hprogress⟩ := visited_children hscan (visit_ok hvisit)
      rcases Outcome.andThen_eq_error.1 h with h | ⟨s₂, hcomplete, h⟩
      · -- the node fails, which is ready by now
        have hready := ready_of_explored hnew (by simp) hbelow hprogress
        exact .node (htrail i List.mem_cons_self).reaches hprogress hready (congrArg Prod.fst h)
      · -- one of the other nodes fails
        have hstuck := ih₂ s₂ (fun j hj => htrail j (List.mem_cons_of_mem i hj)) hpath hnodup h
        exact hstuck.after hnew hbelow (hprogress.trans (progress_complete hcomplete))

/-- The evaluation of a node fails only at a cycle of ids or at a node that is ready. -/
lemma evaluateNode_error {g : Graph} {i : Fin g.size} {s after : Session} {e : Error}
    (h : evaluateNode g i s = (.error e, after)) : Stuck g i [] [i] { s with trace := .empty } e := by
  cases answered_of_evaluateNode h with
  | @failed _ mid _ hlook hvisit =>
    have hstart := progress_start hlook
    have hids : mid.cache.ids = s.cache.ids := by simpa using hstart.ids
    refine (visit_error Graph.Trail.of_root rfl .nil hvisit).mono hstart fun hapart order hsearch => ?_
    rw [hids]
    exact ⟨hapart, order, hsearch⟩
  | missing _ hvisit hget =>
    obtain ⟨order, hsearch, hprogress⟩ := visit_ok hvisit
    have hcached := hsearch.postOrder.mem_done i List.mem_cons_self
    rw [← hprogress.ids, ← Cache.contains_iff, Cache.contains, hget] at hcached
    cases hcached

/-- A root is searched after the child that it shares. -/
lemma postOrder_twin {order : List (Fin 4)} (h : Graph.twin.PostOrder [] [(1 : Fin 4)] order) :
    order = [(3 : Fin 4), 1] := by
  have hchild : Graph.twin.PostOrder [] [(3 : Fin 4)] ([] ++ [3] ++ []) := .new List.not_mem_nil .nil .nil
  have horder : order = ([] ++ [3] ++ []) ++ [1] ++ [] := h.unique (.new List.not_mem_nil hchild .nil)
  exact horder

/-- An evaluation that succeeds computes every node of the memoizing recursion once and in its order, asks the
checker for these nodes in this order, and adds their results to the cache. Whether it succeeds or fails, the guards
against computing a node twice, too early or not at all raise nothing: an error of theirs is one of the checker. -/
theorem evaluateNode_once (g : Graph) (i : Fin g.size) (s : Session) :
    (∀ handle after, evaluateNode g i s = (.ok handle, after) →
      ∃ order, g.PostOrder s.cache.ids [i] order ∧
        after.trace.evaluated = order.map g.id ∧
        after.trace.evaluated.Nodup ∧
        (∀ id ∈ after.trace.evaluated, id ∉ s.cache.ids) ∧
        after.trace.asked = order.map (fun j => (g.node j).model) ∧
        ∃ new, after.cache.entries = s.cache.entries ++ new ∧ new.map Prod.fst = after.trace.evaluated) ∧
    ∀ e after, evaluateNode g i s = (.error e, after) → e.IsGuard →
      ∃ j, g.Reaches i j ∧ s.checker (g.node j).model = .error e := by
  constructor
  · intro handle after h
    obtain ⟨order, hsearch, hprogress⟩ := evaluateNode_ok h
    have hevaluated : after.trace.evaluated = order.map g.id := hprogress.evaluated
    refine ⟨order, hsearch.postOrder, hevaluated, ?_, ?_, hprogress.asked, ?_⟩
    · rw [hevaluated]
      exact hprogress.nodup
    · rw [hevaluated]
      exact List.forall_mem_map.2 hprogress.fresh
    · rw [hevaluated]
      exact hprogress.entries
  · intro e after h hguard
    cases evaluateNode_error h with
    | closed => cases hguard
    | @node j _ _ _ hj hprogress hready hfail =>
      exact ⟨j, hj, checker_of_ready hprogress hready hfail hguard.ofEvaluation⟩

/-- The theorem applies, for example, to a fresh session and a root that names the child that it shares: the
child is computed first. -/
theorem evaluateNode_once_twin : ∃ s handle after,
    evaluateNode Graph.twin (1 : Fin 4) s = (.ok handle, after) ∧
    after.trace.evaluated = ["d", "q"] ∧ after.trace.asked = [.datum (.text "0.5"), .datum (.text "d")] := by
  obtain ⟨s, handle, after, _, hempty, heval⟩ := exists_evaluated
  obtain ⟨order, horder, hevaluated, _, _, hasked, _⟩ := (evaluateNode_once _ _ s).1 handle after heval
  have hids : s.cache.ids = [] := by rw [Cache.ids, hempty, List.map_nil]
  rw [hids] at horder
  obtain rfl := postOrder_twin horder
  exact ⟨s, handle, after, heval, hevaluated, hasked⟩

end Session

end ProductLine
