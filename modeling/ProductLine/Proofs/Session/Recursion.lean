import Mathlib.Tactic.Common
import ProductLine.Session.Evaluation

/-!
# Evaluation as a recursion

`Session.visit` is the evaluation of several nodes below a path written as a recursion over the graph: each
node that is not cached by then has its children looked up, those that were not found evaluated, and is
then computed. `Walk.run_eq_visit` says that carrying out tasks is this recursion, so what an evaluation
keeps is shown once, over the cases of `visit` (`Session.visit_keeps`).
-/

namespace ProductLine

namespace Session

/-- Goes on with the session that an operation leaves, unless it failed. -/
def Outcome.andThen {α : Type} (o : Outcome Unit) (f : Session → Outcome α) : Outcome α :=
  match o with
  | (.error e, s) => (.error e, s)
  | (.ok (), s) => f s

/-- What fails does not go on. -/
@[simp] lemma Outcome.andThen_error {α : Type} (e : Error) (s : Session) (f : Session → Outcome α) :
    Outcome.andThen (.error e, s) f = (.error e, s) := rfl

/-- What succeeds goes on in the session that it leaves. -/
@[simp] lemma Outcome.andThen_ok {α : Type} (s : Session) (f : Session → Outcome α) :
    Outcome.andThen (.ok (), s) f = f s := rfl

/-- How steps are grouped does not matter. -/
lemma Outcome.andThen_assoc {α : Type} (o : Outcome Unit) (f : Session → Outcome Unit)
    (h : Session → Outcome α) : (o.andThen f).andThen h = o.andThen fun s => (f s).andThen h := by
  obtain ⟨e | ⟨⟨⟩⟩, s⟩ := o
  · rfl
  · rfl

/-- A sequence succeeds exactly if both parts do. -/
lemma Outcome.andThen_eq_ok {α : Type} {o : Outcome Unit} {f : Session → Outcome α} {a : α} {after : Session} :
    o.andThen f = (.ok a, after) ↔ ∃ s, o = (.ok (), s) ∧ f s = (.ok a, after) := by
  obtain ⟨e | ⟨⟨⟩⟩, s⟩ := o
  · simp
  · simp

/-- A sequence fails exactly if its first part does, or the first part succeeds and the second fails. -/
lemma Outcome.andThen_eq_error {α : Type} {o : Outcome Unit} {f : Session → Outcome α} {e : Error}
    {after : Session} :
    o.andThen f = (.error e, after) ↔
      o = (.error e, after) ∨ ∃ s, o = (.ok (), s) ∧ f s = (.error e, after) := by
  obtain ⟨e' | ⟨⟨⟩⟩, s⟩ := o
  · simp
  · simp

/-- A sequence keeps what both parts keep, whichever of them fails. -/
lemma Outcome.andThen_keeps {α : Type} {I : Session → Prop} {o : Outcome Unit} {f : Session → Outcome α}
    (ho : I o.2) (hf : ∀ s, I s → I (f s).2) : I (o.andThen f).2 := by
  obtain ⟨e | ⟨⟨⟩⟩, s⟩ := o
  · exact ho
  · exact hf s ho

/-- Evaluates those of several nodes reached by `path` that are not cached by then, one after the other. -/
def visit (g : Graph) (path : List String) : List (Fin g.size) → Session → Outcome Unit
  | [], s => (.ok (), s)
  | i :: rest, s =>
    if s.cache.contains (g.id i) then visit g path rest s
    else if _ : g.id i ∈ path then (.error (.cycle (path.dropWhile (· ≠ g.id i) ++ [g.id i])), s)
    else
      match scan g (path ++ [g.id i]) (g.children i).reverse [] s with
      | (.error e, s) => (.error e, s)
      | (.ok pending, s) =>
        ((visit g (path ++ [g.id i]) pending s).andThen (complete g i)).andThen fun s => visit g path rest s
termination_by nodes => (g.unseen g.id path, nodes.length)
decreasing_by
  · exact Prod.Lex.right _ (Nat.lt_succ_self _)
  · exact Prod.Lex.left _ _ (g.unseen_lt g.id ‹_› (by simp) fun _ hk => by simp [hk])
  · exact Prod.Lex.right _ (Nat.lt_succ_self _)

section Visit

variable {g : Graph} {path : List String} {i : Fin g.size} {rest : List (Fin g.size)} {s : Session}

/-- With no nodes left nothing is done. -/
@[simp] lemma visit_nil : visit g path [] s = (.ok (), s) := by
  rw [visit]

/-- A node that is cached is passed over. -/
lemma visit_cached (h : s.cache.contains (g.id i) = true) : visit g path (i :: rest) s = visit g path rest s := by
  rw [visit, if_pos h]

/-- A node whose id is on the path closes a cycle. -/
lemma visit_closing (h : ¬ s.cache.contains (g.id i) = true) (hi : g.id i ∈ path) :
    visit g path (i :: rest) s = (.error (.cycle (path.dropWhile (· ≠ g.id i) ++ [g.id i])), s) := by
  rw [visit, if_neg h, dif_pos hi]

/-- A node fails if scanning its children does. -/
lemma visit_of_scan_error (h : ¬ s.cache.contains (g.id i) = true) (hi : g.id i ∉ path) {e : Error}
    {after : Session} (hscan : scan g (path ++ [g.id i]) (g.children i).reverse [] s = (.error e, after)) :
    visit g path (i :: rest) s = (.error e, after) := by
  rw [visit, if_neg h, dif_neg hi, hscan]

/-- A node that is not cached is computed after those of its children that are not, and before the rest. -/
lemma visit_of_scan_ok (h : ¬ s.cache.contains (g.id i) = true) (hi : g.id i ∉ path)
    {pending : List (Fin g.size)} {after : Session}
    (hscan : scan g (path ++ [g.id i]) (g.children i).reverse [] s = (.ok pending, after)) :
    visit g path (i :: rest) s =
      (visit g (path ++ [g.id i]) pending after).andThen fun s =>
        (complete g i s).andThen fun s => visit g path rest s := by
  rw [visit, if_neg h, dif_neg hi, hscan, ← Outcome.andThen_assoc]

end Visit

/-- Looking children up keeps what one lookup keeps. -/
lemma scan_keeps {I : Session → Prop} (hlook : ∀ s id, I s → I (s.look id).2) (g : Graph) (path : List String)
    (cs pending : List (Fin g.size)) {s : Session} (hs : I s) : I (scan g path cs pending s).2 := by
  induction cs generalizing pending s with
  | nil => exact hs
  | cons c rest ih =>
    have h := hlook s (g.id c) hs
    unfold scan
    split
    · exact hs
    · split
      · rename_i hl
        rw [hl] at h
        exact ih _ h
      · rename_i hl
        rw [hl] at h
        exact ih _ h

/-- A lookup finds something exactly if the id is cached. -/
lemma look_fst (s : Session) (id : String) : (s.look id).1 = s.cache.get? id := by
  unfold look Cache.lookup
  cases s.cache.get? id with
  | none => rfl
  | some handle => rfl

/-- If no child stands on the path, those are left that are not cached, in the order of a list read from its end. -/
lemma scan_ok {g : Graph} {path : List String} {cs pending result : List (Fin g.size)} {s after : Session}
    (h : scan g path cs pending s = (.ok result, after)) :
    result = (cs.filter (g.id · ∉ s.cache.ids)).reverse ++ pending ∧ ∀ c ∈ cs, g.id c ∉ path := by
  induction cs generalizing pending s with
  | nil =>
    cases h
    exact ⟨rfl, by simp⟩
  | cons c rest ih =>
    have hids := ids_look s (g.id c)
    have hfound := s.look_fst (g.id c)
    unfold scan at h
    split at h
    · cases h
    · rename_i hc
      split at h
      · rename_i hl
        rw [hl] at hids hfound
        obtain ⟨hresult, hrest⟩ := ih h
        have hcached : g.id c ∈ s.cache.ids := Cache.mem_ids_iff.2 ⟨_, hfound.symm⟩
        rw [List.filter_cons_of_neg (by simpa using hcached), hresult, hids]
        exact ⟨rfl, List.forall_mem_cons.2 ⟨hc, hrest⟩⟩
      · rename_i hl
        rw [hl] at hids hfound
        obtain ⟨hresult, hrest⟩ := ih h
        have hnew : g.id c ∉ s.cache.ids := Cache.not_mem_ids_iff.2 hfound.symm
        rw [List.filter_cons_of_pos (by simpa using hnew), hresult, hids]
        exact ⟨by simp, List.forall_mem_cons.2 ⟨hc, hrest⟩⟩

/-- Looking children up fails only at a child on the path, which closes a cycle. -/
lemma scan_error {g : Graph} {path : List String} {cs pending : List (Fin g.size)} {s after : Session} {e : Error}
    (h : scan g path cs pending s = (.error e, after)) :
    ∃ c ∈ cs, g.id c ∈ path ∧ e = .cycle (path.dropWhile (· ≠ g.id c) ++ [g.id c]) := by
  induction cs generalizing pending s with
  | nil => cases h
  | cons c rest ih =>
    unfold scan at h
    split at h
    · rename_i hc
      cases h
      exact ⟨c, List.mem_cons_self, hc, rfl⟩
    · split at h
      · obtain ⟨d, hd, hclosed⟩ := ih h
        exact ⟨d, List.mem_cons_of_mem c hd, hclosed⟩
      · obtain ⟨d, hd, hclosed⟩ := ih h
        exact ⟨d, List.mem_cons_of_mem c hd, hclosed⟩

/-- What is left to be evaluated below a node are its children that are not cached, in their order. -/
lemma pending_eq {g : Graph} {path : List String} {i : Fin g.size} {pending : List (Fin g.size)} {s after : Session}
    (h : scan g path (g.children i).reverse [] s = (.ok pending, after)) :
    pending = (g.children i).filter (g.id · ∉ s.cache.ids) := by
  rw [(scan_ok h).1, List.append_nil, List.filter_reverse, List.reverse_reverse]

/-- An evaluation keeps what lookups keep and what computing one of the nodes keeps that it may come to,
whether it succeeds or fails. -/
theorem visit_keeps {g : Graph} {I : Session → Prop} {Q : Fin g.size → Prop} (hlook : ∀ s id, I s → I (s.look id).2)
    (hcomplete : ∀ i s, Q i → I s → I (complete g i s).2) (hchildren : ∀ i, Q i → ∀ c ∈ g.children i, Q c)
    {path : List String} {nodes : List (Fin g.size)} {s : Session} (hnodes : ∀ i ∈ nodes, Q i) (hs : I s) :
    I (visit g path nodes s).2 := by
  induction path, nodes, s using visit.induct g with
  | case1 path s =>
    rw [visit_nil]
    exact hs
  | case2 path i rest s hcached ih =>
    rw [visit_cached hcached]
    exact ih (fun j hj => hnodes j (List.mem_cons_of_mem _ hj)) hs
  | case3 path i rest s hcached hi =>
    rw [visit_closing hcached hi]
    exact hs
  | case4 path i rest s hcached hi e after hscan =>
    rw [visit_of_scan_error hcached hi hscan]
    have h := scan_keeps hlook g (path ++ [g.id i]) (g.children i).reverse [] hs
    rwa [hscan] at h
  | case5 path i rest s hcached hi pending after hscan ih₁ ih₂ =>
    rw [visit_of_scan_ok hcached hi hscan]
    have hpending : ∀ c ∈ pending, Q c := by
      intro c hc
      rw [pending_eq hscan] at hc
      exact hchildren i (hnodes i List.mem_cons_self) c (List.mem_filter.1 hc).1
    have hafter := scan_keeps hlook g (path ++ [g.id i]) (g.children i).reverse [] hs
    rw [hscan] at hafter
    refine Outcome.andThen_keeps (ih₁ hpending hafter) fun s₁ hs₁ => ?_
    refine Outcome.andThen_keeps (hcomplete i s₁ (hnodes i List.mem_cons_self) hs₁) fun s₂ hs₂ => ?_
    exact ih₂ s₂ (fun j hj => hnodes j (List.mem_cons_of_mem _ hj)) hs₂

/-- An evaluation fails at a cycle of ids, or at completing one of the nodes that it may come to in a session
with what lookups and completing nodes keep. -/
theorem visit_error_keeps {g : Graph} {I : Session → Prop} {Q : Fin g.size → Prop}
    (hlook : ∀ s id, I s → I (s.look id).2) (hcomplete : ∀ i s, Q i → I s → I (complete g i s).2)
    (hchildren : ∀ i, Q i → ∀ c ∈ g.children i, Q c) {path : List String} {nodes : List (Fin g.size)}
    {s after : Session} {e : Error} (hnodes : ∀ i ∈ nodes, Q i) (hs : I s)
    (h : visit g path nodes s = (.error e, after)) :
    (∃ p, e = .cycle p) ∨ ∃ i mid, Q i ∧ I mid ∧ complete g i mid = (.error e, after) := by
  induction path, nodes, s using visit.induct g with
  | case1 path s =>
    rw [visit_nil] at h
    cases h
  | case2 path i rest s hcached ih =>
    rw [visit_cached hcached] at h
    exact ih (fun j hj => hnodes j (List.mem_cons_of_mem _ hj)) hs h
  | case3 path i rest s hcached hi =>
    rw [visit_closing hcached hi] at h
    cases h
    exact .inl ⟨_, rfl⟩
  | case4 path i rest s hcached hi e' mid hscan =>
    rw [visit_of_scan_error hcached hi hscan] at h
    cases h
    obtain ⟨c, _, _, hclosed⟩ := scan_error hscan
    exact .inl ⟨_, hclosed⟩
  | case5 path i rest s hcached hi pending mid hscan ih₁ ih₂ =>
    rw [visit_of_scan_ok hcached hi hscan] at h
    have hroot := hnodes i List.mem_cons_self
    have hpending : ∀ c ∈ pending, Q c := by
      intro c hc
      rw [pending_eq hscan] at hc
      exact hchildren i hroot c (List.mem_filter.1 hc).1
    have hmid := scan_keeps hlook g (path ++ [g.id i]) (g.children i).reverse [] hs
    rw [hscan] at hmid
    have hvisited : I (visit g (path ++ [g.id i]) pending mid).2 :=
      visit_keeps hlook hcomplete hchildren hpending hmid
    -- it fails below the node, at the node itself, or among the rest
    rcases Outcome.andThen_eq_error.1 h with hbelow | ⟨s₁, hvisit, h⟩
    · exact ih₁ hpending hmid hbelow
    · rw [hvisit] at hvisited
      rcases Outcome.andThen_eq_error.1 h with hnode | ⟨s₂, hdone, hrest⟩
      · exact .inr ⟨i, s₁, hroot, hvisited, hnode⟩
      · have hcompleted := hcomplete i s₁ hroot hvisited
        rw [hdone] at hcompleted
        exact ih₂ s₂ (fun j hj => hnodes j (List.mem_cons_of_mem _ hj)) hcompleted hrest

end Session

namespace Walk

open Session

variable {g : Graph}

/-- A path goes on with a new id. -/
lemma extend_of_not_mem {path : List String} {id : String} (h : id ∉ path) : extend path id = path ++ [id] :=
  if_neg h

/-- A walk without tasks ends. -/
lemma run_nil (path : List String) (s : Session) : (Walk.mk (g := g) path [] s).run = (.ok (), s) := by
  rw [run]

/-- A walk whose next task fails ends with it. -/
lemma run_of_perform_error {path : List String} {task : Task g} {rest : List (Task g)} {s after : Session}
    {e : Error} (h : (Walk.mk path rest s).perform task = .error (e, after)) :
    (Walk.mk path (task :: rest) s).run = (.error e, after) := by
  rw [run]
  split <;> simp_all

/-- A walk whose next task succeeds goes on with what the task leaves. -/
lemma run_of_perform_ok {path : List String} {task : Task g} {rest : List (Task g)} {s : Session}
    {next : Walk g} (h : (Walk.mk path rest s).perform task = .ok next) :
    (Walk.mk path (task :: rest) s).run = next.run := by
  rw [run]
  split <;> simp_all

/-- Computing a node at the end of the path takes it from the path. -/
lemma run_finish {path : List String} {i : Fin g.size} (hi : g.id i ∉ path) (rest : List (Task g))
    (s : Session) :
    (Walk.mk (path ++ [g.id i]) (.finish i :: rest) s).run =
      Outcome.andThen (complete g i s) fun s => (Walk.mk path rest s).run := by
  cases hc : complete g i s with
  | mk result after =>
    cases result with
    | error e => exact run_of_perform_error (by simp [perform, hc])
    | ok _ =>
      have herase : (path ++ [g.id i]).erase (g.id i) = path := by
        rw [List.erase_append_right _ hi]
        simp
      have hstep : (Walk.mk (path ++ [g.id i]) rest s).perform (.finish i) = .ok ⟨path, rest, after⟩ := by
        simp [perform, hc, herase]
      exact run_of_perform_ok hstep

/-- Carrying out the tasks to reach some nodes is to visit them. -/
theorem run_reach (path : List String) (nodes : List (Fin g.size)) (s : Session)
    (hn : ∀ i ∈ nodes, g.id i ∉ path) (tasks : List (Task g)) :
    (Walk.mk path (nodes.map .reach ++ tasks) s).run =
      (visit g path nodes s).andThen fun s => (Walk.mk path tasks s).run := by
  induction path, nodes, s using visit.induct g generalizing tasks with
  | case1 path s => simp
  | case2 path i rest s hcached ih =>
    rw [visit_cached hcached, ← ih (fun j hj => hn j (List.mem_cons_of_mem _ hj))]
    exact run_of_perform_ok (by simp [perform, hcached])
  | case3 path i rest s _ hi => exact absurd hi (hn i List.mem_cons_self)
  | case4 path i rest s hcached hi e after hscan =>
    rw [visit_of_scan_error hcached hi hscan]
    exact run_of_perform_error (by simp [perform, hcached, extend_of_not_mem hi, hscan])
  | case5 path i rest s hcached hi pending after hscan ih₁ ih₂ =>
    rw [visit_of_scan_ok hcached hi hscan]
    have hstep : (Walk.mk path (rest.map .reach ++ tasks) s).perform (.reach i) =
        .ok ⟨path ++ [g.id i], pending.map .reach ++ .finish i :: (rest.map .reach ++ tasks), after⟩ := by
      simp [perform, hcached, extend_of_not_mem hi, hscan]
    have hpending := not_mem_path_of_scan hscan (by simp)
    -- the node's own computation stands among the tasks right behind those of its children
    calc (Walk.mk path (.reach i :: (rest.map .reach ++ tasks)) s).run
        = (visit g (path ++ [g.id i]) pending after).andThen fun s =>
            (Walk.mk (path ++ [g.id i]) (.finish i :: (rest.map .reach ++ tasks)) s).run := by
          rw [run_of_perform_ok hstep, ih₁ hpending]
      _ = (visit g (path ++ [g.id i]) pending after).andThen fun s =>
            (complete g i s).andThen fun s => (visit g path rest s).andThen fun s =>
              (Walk.mk path tasks s).run := by
          congr 1
          funext s
          rw [run_finish hi]
          congr 1
          funext s
          exact ih₂ s (fun j hj => hn j (List.mem_cons_of_mem _ hj)) tasks
      _ = _ := by simp only [Outcome.andThen_assoc]

/-- Evaluating a node is visiting it with nothing on the path. -/
theorem run_eq_visit (i : Fin g.size) (s : Session) : (Walk.start i s).run = visit g [] [i] s := by
  have h := run_reach [] [i] s (by simp) []
  simp only [List.map_cons, List.map_nil, List.append_nil] at h
  rw [start, h]
  obtain ⟨e | ⟨⟨⟩⟩, after⟩ := visit g [] [i] s
  · rfl
  · exact run_nil [] after

end Walk

end ProductLine
