import Mathlib.Tactic.Common
import ProductLine.Proofs.Session.Cache
import ProductLine.Proofs.Session.Order

/-!
# Accounts of evaluations

An evaluation counts each lookup that it makes, one for its node and one for each child of each node that it
expands, and traces those that found a diagram (`Session.Tally`, `Walk.expanded`). Binding children and asking
whether a node is cached counts nothing. So the trace and the nodes that were expanded tell what an evaluation
adds to the counts of its cache (`Session.cache_accounted`).
-/

namespace ProductLine

/-- The nodes that a task expands: one that is reached and not cached. -/
def Task.expands {g : Graph} (s : Session) : Task g → List (Fin g.size)
  | .finish _ => []
  | .reach i => if s.cache.contains (g.id i) then [] else [i]

/-- The nodes that a walk expands, in the order in which it comes to them. -/
def Walk.expanded {g : Graph} : Walk g → List (Fin g.size)
  | ⟨_, [], _⟩ => []
  | ⟨path, task :: rest, s⟩ =>
    task.expands s ++
      match _ : (Walk.mk path rest s).perform task with
      | .error _ => []
      | .ok next => next.expanded
termination_by w => w.measure
decreasing_by exact Walk.measure_perform ‹_›

/-- The node that a task computes. -/
def Task.computes {g : Graph} : Task g → Option (Fin g.size)
  | .finish i => some i
  | .reach _ => none

namespace Session

/-- The nodes that the evaluation of a node expands. -/
def expanded (g : Graph) (i : Fin g.size) (s : Session) : List (Fin g.size) :=
  match { s with trace := .empty }.look (g.id i) with
  | (some _, _) => []
  | (none, s) => (Walk.start i s).expanded

/-- Whether a session was led to another by lookups, so many in number, with those that found a diagram
counted as hits and traced and the others counted as misses. -/
structure Tally (s t : Session) (looked : Nat) : Prop where
  hits : ∃ found, t.trace.hits = s.trace.hits ++ found ∧ t.cache.hits = s.cache.hits + found.length
  looked : t.cache.hits + t.cache.misses = s.cache.hits + s.cache.misses + looked

namespace Tally

variable {s t u after : Session} {n m : Nat} {g : Graph} {i : Fin g.size}

/-- A session is led to itself by no lookups. -/
lemma refl (s : Session) : Tally s s 0 := ⟨⟨[], (List.append_nil _).symm, rfl⟩, rfl⟩

/-- The lookups of two runs are counted together. -/
lemma trans (h : Tally s t n) (h' : Tally t u m) : Tally s u (n + m) := by
  obtain ⟨found, htrace, hcount⟩ := h.hits
  obtain ⟨found', htrace', hcount'⟩ := h'.hits
  refine ⟨⟨found ++ found', ?_, ?_⟩, ?_⟩
  · rw [htrace', htrace, List.append_assoc]
  · rw [hcount', hcount, List.length_append, Nat.add_assoc]
  · rw [h'.looked, h.looked, Nat.add_assoc]

/-- A lookup is counted as one. -/
lemma look (s : Session) (id : String) : Tally s (s.look id).2 1 := by
  rw [Session.look, Cache.lookup]
  cases s.cache.get? id with
  | some handle => exact ⟨⟨[id], rfl, rfl⟩, Nat.add_right_comm _ _ _⟩
  | none => exact ⟨⟨[], (List.append_nil _).symm, rfl⟩, rfl⟩

/-- Looking children up without an error counts each of them once. -/
lemma scan {path : List String} {cs pending result : List (Fin g.size)}
    (h : scan g path cs pending s = (.ok result, after)) : Tally s after cs.length := by
  induction cs generalizing pending s with
  | nil =>
    cases h
    exact refl _
  | cons c rest ih =>
    have hlook := look s (g.id c)
    rw [Session.scan] at h
    split at h
    · cases h
    · rw [List.length_cons, Nat.add_comm]
      split at h
      · rename_i hfound
        rw [hfound] at hlook
        exact hlook.trans (ih h)
      · rename_i hmissed
        rw [hmissed] at hlook
        exact hlook.trans (ih h)

/-- Completing a node looks nothing up. -/
lemma complete (h : complete g i s = (.ok (), after)) : Tally s after 0 := by
  cases completed_of_complete h with
  | @recorded d mid cache hcompute hput =>
    obtain ⟨_, rfl⟩ := Cache.put_ok hput
    cases computed_of_compute hcompute with
    | @solved _ bindings _ _ _ _ hbind =>
      obtain ⟨space, presences, warnings, supply, hmid⟩ :=
        bindChildren_snd (g.id i) (g.children i) [] (s.ask (g.node i).model).2
      rw [hbind] at hmid
      have hmid : mid = _ := hmid
      rw [hmid]
      exact ⟨⟨[], (List.append_nil _).symm, rfl⟩, rfl⟩

end Tally

end Session

namespace Walk

open Session

variable {g : Graph} {w next : Walk g} {after : Session}

/-- Carrying out a task looks up the children of the nodes that it expands. -/
lemma tally_perform {task : Task g} (h : w.perform task = .ok next) :
    Tally w.session next.session ((task.expands w.session).flatMap g.children).length := by
  cases task with
  | finish i =>
    simp only [perform] at h
    split at h
    · cases h
    · rename_i hcomplete
      cases h
      exact Tally.complete hcomplete
  | reach i =>
    simp only [perform] at h
    rw [Task.expands]
    split at h
    · rename_i hcached
      cases h
      rw [if_pos hcached]
      exact .refl w.session
    · rename_i hnew
      rw [if_neg hnew]
      split at h
      · cases h
      · rename_i hscan
        cases h
        have htally := Tally.scan hscan
        rw [List.length_reverse] at htally
        rwa [List.flatMap_singleton]

/-- A walk expands what its next task does, and then what it expands from there. -/
lemma expanded_of_perform {path : List String} {task : Task g} {rest : List (Task g)} {s : Session}
    (h : (Walk.mk path rest s).perform task = .ok next) :
    (Walk.mk path (task :: rest) s).expanded = task.expands s ++ next.expanded := by
  rw [expanded]
  split
  · rename_i hfailed
    cases h.symm.trans hfailed
  · rename_i hnext
    cases h.symm.trans hnext
    rfl

/-- A walk that ends without an error looked up the children of the nodes that it expanded. -/
lemma tally_run (h : w.run = (.ok (), after)) :
    Tally w.session after (w.expanded.flatMap g.children).length := by
  fun_induction run w with
  | case1 path s =>
    cases h
    rw [expanded]
    exact .refl _
  | case2 path task rest s e _ hperform => cases h
  | case3 path task rest s next hperform ih =>
    have hstep := tally_perform hperform
    rw [expanded_of_perform hperform, List.flatMap_append, List.length_append]
    exact hstep.trans (ih h)

/-- The ids of the nodes that some tasks compute. -/
def awaited (tasks : List (Task g)) : List String := (tasks.filterMap Task.computes).map g.id

/-- Of a node that is expanded only the task to finish it computes a node. -/
lemma awaited_reach (nodes : List (Fin g.size)) (i : Fin g.size) (tasks : List (Task g)) :
    awaited (nodes.map .reach ++ .finish i :: tasks) = g.id i :: awaited tasks := by
  have hnone : (nodes.map Task.reach).filterMap Task.computes = [] := by
    rw [List.filterMap_map]
    exact List.filterMap_eq_nil_iff.2 fun _ _ => rfl
  rw [awaited, List.filterMap_append, hnone]
  rfl

/-- Carrying out a task computes what it is to compute, and puts off the computation of what it expands. -/
lemma evaluated_perform {path : List String} {task : Task g} {rest : List (Task g)} {s : Session}
    (h : (Walk.mk path rest s).perform task = .ok next) :
    (next.session.trace.evaluated ++ awaited next.tasks).Perm
      (s.trace.evaluated ++ awaited (task :: rest) ++ (task.expands s).map g.id) := by
  cases task with
  | finish i =>
    simp only [perform] at h
    split at h
    · cases h
    · rename_i hcomplete
      cases h
      have hevaluated := (progress_complete hcomplete).evaluated
      apply List.Perm.of_eq
      rw [hevaluated, Task.expands, List.map_nil, List.append_nil, List.append_assoc]
      rfl
  | reach i =>
    simp only [perform] at h
    rw [Task.expands]
    split at h
    · rename_i hcached
      cases h
      rw [if_pos hcached, List.map_nil, List.append_nil]
      exact .refl _
    · rename_i hnew
      rw [if_neg hnew]
      split at h
      · cases h
      · rename_i hscan
        cases h
        have hevaluated := (progress_scan hscan).evaluated
        rw [List.map_nil, List.append_nil] at hevaluated
        rw [awaited_reach, hevaluated, List.append_assoc]
        exact List.Perm.append_left _ (List.perm_append_singleton _ _).symm

/-- A walk that ends without an error computed what its tasks were to compute and the nodes that it expanded. -/
lemma evaluated_run (h : w.run = (.ok (), after)) :
    after.trace.evaluated.Perm (w.session.trace.evaluated ++ awaited w.tasks ++ w.expanded.map g.id) := by
  fun_induction run w with
  | case1 path s =>
    cases h
    rw [expanded, List.map_nil, List.append_nil]
    exact .of_eq (List.append_nil _).symm
  | case2 path task rest s e _ hperform => cases h
  | case3 path task rest s next hperform ih =>
    have hstep := evaluated_perform hperform
    rw [expanded_of_perform hperform, List.map_append, ← List.append_assoc]
    exact (ih h).trans (hstep.append_right _)

end Walk

namespace Session

variable {g : Graph} {i : Fin g.size} {s after : Session} {handle : Handle}

/-- An evaluation that succeeds finds its node in the cache, or goes on to a walk that ends without an error
and expands what the evaluation expands. -/
lemma expanded_of_evaluateNode (h : evaluateNode g i s = (.ok handle, after)) :
    ({ s with trace := .empty }.look (g.id i) = (some handle, after) ∧ s.expanded g i = []) ∨
      ∃ mid, { s with trace := .empty }.look (g.id i) = (none, mid) ∧ (Walk.start i mid).run = (.ok (), after) ∧
        s.expanded g i = (Walk.start i mid).expanded := by
  cases answered_of_evaluateNode h with
  | found hlook => exact .inl ⟨hlook, by simp only [expanded, hlook]⟩
  | @visited _ mid _ hlook hvisit hget =>
    exact .inr ⟨mid, hlook, (Walk.run_eq_visit i mid).trans hvisit, by simp only [expanded, hlook]⟩

/-- An evaluation that succeeds looks up its node and the children of the nodes that it expanded. -/
lemma tally_evaluateNode (h : evaluateNode g i s = (.ok handle, after)) :
    Tally { s with trace := .empty } after (1 + ((s.expanded g i).flatMap g.children).length) := by
  have htally := Tally.look { s with trace := .empty } (g.id i)
  rcases expanded_of_evaluateNode h with ⟨hlook, hexpanded⟩ | ⟨mid, hlook, hrun, hexpanded⟩
  · rw [hlook] at htally
    rw [hexpanded]
    exact htally
  · rw [hlook] at htally
    rw [hexpanded]
    exact htally.trans (Walk.tally_run hrun)

/-- An evaluation that succeeds computes the nodes that it expanded. -/
lemma evaluated_evaluateNode (h : evaluateNode g i s = (.ok handle, after)) :
    after.trace.evaluated.Perm ((s.expanded g i).map g.id) := by
  rcases expanded_of_evaluateNode h with ⟨hlook, hexpanded⟩ | ⟨mid, hlook, hrun, hexpanded⟩
  · rw [hexpanded, (progress_start hlook).evaluated]
    exact .refl _
  · have hevaluated := Walk.evaluated_run hrun
    rw [Walk.start, (progress_start hlook).evaluated] at hevaluated
    rw [hexpanded]
    exact hevaluated

/-- After any actions a cache holds the first diagram put for each id since it was cleared last, which stays
until it is cleared and does not give way to a further one, and has counted the lookups since then. An
evaluation that succeeds, in any session and on any graph, adds one hit for each that it traces and looks up
its node and the children of those that it expands. -/
theorem cache_accounted :
    (∀ actions : List Cache.Action,
      let cache := Cache.empty.after actions
      let recent := Cache.sinceClear (Cache.empty.log actions)
      (∀ id, cache.get? id = (Cache.puts recent).lookup id) ∧
      cache.size = ((Cache.puts recent).map Prod.fst).toFinset.card ∧
      cache.hits = recent.countP Cache.Entry.isHit ∧
      cache.misses = recent.countP Cache.Entry.isMiss ∧
      (∀ id ∈ (Cache.puts recent).map Prod.fst, ∀ handle,
        (Cache.Action.put id handle).perform cache = (.refused (.alreadyCached id), cache)) ∧
      (∀ more, (∀ action ∈ more, action.clears = false) → ∀ id handle, cache.get? id = some handle →
        (cache.after more).get? id = some handle)) ∧
    (∀ (g : Graph) (i : Fin g.size) (s after : Session) (handle : Handle),
      evaluateNode g i s = (.ok handle, after) →
      after.cache.hits = s.cache.hits + after.trace.hits.length ∧
      after.cache.hits + after.cache.misses =
        s.cache.hits + s.cache.misses + 1 + ((s.expanded g i).flatMap g.children).length ∧
      after.trace.evaluated.Perm ((s.expanded g i).map g.id)) := by
  constructor
  · intro actions cache recent
    have haccounts : Cache.Accounts recent cache := Cache.accounts_log actions
    refine ⟨haccounts.stored, haccounts.size, haccounts.hits, haccounts.misses, ?_, ?_⟩
    · intro id hid handle
      exact Cache.perform_put_of_mem (haccounts.mem_ids_iff.2 hid) handle
    · intro more hmore id handle hget
      exact Cache.get?_after hmore hget
  · intro g i s after handle h
    have htally := tally_evaluateNode h
    obtain ⟨found, htrace, hhits⟩ := htally.hits
    refine ⟨?_, ?_, evaluated_evaluateNode h⟩
    · rw [hhits, show after.trace.hits = found from htrace]
    · exact htally.looked.trans (Nat.add_assoc _ _ _).symm

/-- A diagram that was put stays when a second one is refused, and a fresh session looks up two ids when it
evaluates a root with the child that it shares. -/
theorem cache_accounted_twin : ∃ s handle after,
    evaluateNode Graph.twin (1 : Fin 4) s = (.ok handle, after) ∧
    after.cache.hits = s.cache.hits + after.trace.hits.length ∧
    after.cache.hits + after.cache.misses = s.cache.hits + s.cache.misses + 2 ∧
    (Cache.Action.put "q" default).perform (Cache.empty.after [.put "q" handle, .lookup "q"]) =
      (.refused (.alreadyCached "q"), Cache.empty.after [.put "q" handle, .lookup "q"]) ∧
    ((Cache.empty.after [.put "q" handle, .lookup "q"]).after [.put "q" default, .size]).get? "q" =
      some handle := by
  obtain ⟨s, handle, after, _, hempty, heval⟩ := exists_evaluated
  obtain ⟨hstored, _, _, _, hrefused, hstays⟩ := cache_accounted.1 [.put "q" handle, .lookup "q"]
  obtain ⟨hhits, hlooked, hperm⟩ := cache_accounted.2 _ _ s after handle heval
  -- the nodes that were expanded are the root and its child
  obtain ⟨order, hsearch, hprogress⟩ := evaluateNode_ok heval
  have hids : s.cache.ids = [] := by rw [Cache.ids, hempty, List.map_nil]
  have horder := hsearch.postOrder
  rw [hids] at horder
  obtain rfl := postOrder_twin horder
  have hevaluated : after.trace.evaluated = [(3 : Fin 4), 1].map Graph.twin.id := hprogress.evaluated
  rw [hevaluated, List.map_perm_map_iff Graph.id_twin_injective] at hperm
  have hchildren := (hperm.flatMap_right Graph.twin.children).length_eq
  rw [← hchildren] at hlooked
  refine ⟨s, handle, after, heval, hhits, hlooked, hrefused "q" List.mem_cons_self default, ?_⟩
  apply hstays
  · intro action haction
    rcases List.mem_pair.1 haction with rfl | rfl
    · rfl
    · rfl
  · exact hstored "q"

end Session

end ProductLine
