import ProductLine.Expression.Parser
import ProductLine.Graph.Basic
import ProductLine.Session.Basic

/-!
# Evaluation of dependency graphs

The reliability of a node is computed from those of its children: each is masked by the child's presence
condition and bound to its id, the node's expression is solved, and the result is masked by the feature
model. Before that, the children are looked up from last to first; a child that stands on the path from
the root closes a cycle, and those not found are then computed from first to last. Every id is computed
once, and whatever was computed before a failure stays. An evaluation keeps what it has yet to do as a list
of tasks, so deep graphs need no deep recursion; `Walk.measure_perform` is why it ends on every graph.
-/

namespace ProductLine

namespace Session

/-- Binds the reliability of each child of `parent`, masked by its presence condition, to its id. -/
def bindChildren (g : Graph) (parent : String) :
    List (Fin g.size) → Expression.Bindings → Session → Outcome Expression.Bindings
  | [], bindings, s => (.ok bindings, s)
  | c :: rest, bindings, s =>
    match s.cache.get? (g.id c) with
    | none => (.error (.outOfOrder (g.id c) parent), s)
    | some reliability =>
      match s.presence (g.node c) with
      | (.error e, s) => (.error e, s)
      | (.ok condition, s) =>
        bindChildren g parent rest
          (bindings.put (g.id c) (.diagram (condition.diagram.mul reliability.diagram))) s

/-- Shows a model to the checker. -/
def ask (s : Session) (model : Model) : Outcome String :=
  (s.checker model, { s with trace := { s.trace with asked := s.trace.asked ++ [model] } })

/-- The reliability of a node whose children are cached. -/
def compute (g : Graph) (i : Fin g.size) (s : Session) : Outcome Diagram :=
  match s.ask (g.node i).model with
  | (.error e, s) => (.error e, s)
  | (.ok text, s) =>
    match bindChildren g (g.id i) (g.children i) [] s with
    | (.error e, s) => (.error e, s)
    | (.ok bindings, s) =>
      match Expression.parse text with
      | .error e => (.error e, s)
      | .ok expression =>
        match expression.solve s.space.owner bindings with
        | .error e => (.error e, s)
        | .ok raw => (.ok (s.featureModel.diagram.mul raw), s)

/-- Computes the reliability of a node and puts it into the cache. -/
def complete (g : Graph) (i : Fin g.size) (s : Session) : Outcome Unit :=
  match compute g i s with
  | (.error e, s) => (.error e, s)
  | (.ok d, s) =>
    let (handle, s) := s.make d
    match s.cache.put (g.id i) handle with
    | .error e => (.error e, s)
    | .ok cache => (.ok (), { s with cache, trace := { s.trace with evaluated := s.trace.evaluated ++ [g.id i] } })

/-- Looks children up one after the other; those not found are put before `pending`. None of them may stand
on the path. -/
def scan (g : Graph) (path : List String) :
    List (Fin g.size) → (pending : List (Fin g.size)) → Session → Outcome (List (Fin g.size))
  | [], pending, s => (.ok pending, s)
  | c :: rest, pending, s =>
    if g.id c ∈ path then (.error (.cycle (path.dropWhile (· ≠ g.id c) ++ [g.id c])), s)
    else
      match s.look (g.id c) with
      | (some _, s) => scan g path rest pending s
      | (none, s) => scan g path rest (c :: pending) s

/-- Computing leaves the cache as it is. -/
@[simp] theorem cache_bindChildren (g : Graph) (parent : String) (cs : List (Fin g.size))
    (bindings : Expression.Bindings) (s : Session) :
    (bindChildren g parent cs bindings s).2.cache = s.cache := by
  induction cs generalizing bindings s with
  | nil => rfl
  | cons c rest ih =>
    have h := cache_presence s (g.node c)
    unfold bindChildren
    split
    · rfl
    · split <;> simp_all

/-- Computing a node leaves the cache alone. -/
@[simp] theorem cache_compute (g : Graph) (i : Fin g.size) (s : Session) :
    (compute g i s).2.cache = s.cache := by
  have h := cache_bindChildren g (g.id i) (g.children i) [] (s.ask (g.node i).model).2
  unfold compute
  split
  · rename_i ha
    exact congrArg (cache ·.2) ha.symm
  · rename_i ha
    rw [ha] at h
    have hs : _ = s.cache := congrArg (cache ·.2) ha.symm
    split
    · simp_all
    · split
      · simp_all
      · split <;> simp_all

/-- A completed node was not cached before and is afterwards, with nothing else changed in the cache. -/
theorem complete_ok {g : Graph} {i : Fin g.size} {s after : Session} (h : complete g i s = (.ok (), after)) :
    g.id i ∉ s.cache.ids ∧ after.cache.ids = s.cache.ids ++ [g.id i] := by
  have hc := cache_compute g i s
  unfold complete at h
  split at h
  · cases h
  · rename_i d s₁ hd
    rw [hd] at hc
    simp only [make] at h
    split at h
    · cases h
    · rename_i cache hput
      obtain ⟨hnew, rfl⟩ := Cache.put_ok hput
      cases h
      simp_all [Cache.ids]

/-- Looking children up leaves the cached ids as they are. -/
@[simp] theorem ids_scan (g : Graph) (path : List String) (cs pending : List (Fin g.size)) (s : Session) :
    (scan g path cs pending s).2.cache.ids = s.cache.ids := by
  induction cs generalizing pending s with
  | nil => rfl
  | cons c rest ih =>
    have h := ids_look s (g.id c)
    unfold scan
    split
    · rfl
    · split <;> simp_all

/-- No child that was looked up without an error stands on the path. -/
theorem not_mem_path_of_scan {g : Graph} {path : List String} {cs pending result : List (Fin g.size)}
    {s after : Session} (h : scan g path cs pending s = (.ok result, after))
    (hp : ∀ c ∈ pending, g.id c ∉ path) : ∀ c ∈ result, g.id c ∉ path := by
  induction cs generalizing pending s with
  | nil =>
    cases h
    exact hp
  | cons c rest ih =>
    unfold scan at h
    split at h
    · cases h
    · rename_i hc
      split at h
      · exact ih h hp
      · refine ih h fun d hd => ?_
        rcases List.mem_cons.1 hd with rfl | hd
        · exact hc
        · exact hp d hd

end Session

/-- What an evaluation has to do with a node: reach it, which puts off its computation until those of its
children that are not cached were computed, or compute it. -/
inductive Task (g : Graph) where
  | reach (i : Fin g.size)
  | finish (i : Fin g.size)

/-- An evaluation under way: the ids reached and not computed yet, in the order in which they were reached,
the tasks that are left, the next one first, and the session. -/
structure Walk (g : Graph) where
  path : List String
  tasks : List (Task g)
  session : Session

namespace Walk

variable {g : Graph}

/-- A path with an id at its end, unless it stands on it already. -/
def extend (path : List String) (id : String) : List String := if id ∈ path then path else path ++ [id]

/-- The evaluation of a node that is about to begin. -/
def start (i : Fin g.size) (s : Session) : Walk g := ⟨[], [.reach i], s⟩

/-- Carries out a task. What it leaves to be done comes before the other tasks. -/
def perform (w : Walk g) : Task g → Except (Error × Session) (Walk g)
  | .finish i =>
    match Session.complete g i w.session with
    | (.error e, s) => .error (e, s)
    | (.ok (), s) => .ok { w with path := w.path.erase (g.id i), session := s }
  | .reach i =>
    if w.session.cache.contains (g.id i) then .ok w
    else
      match Session.scan g (extend w.path (g.id i)) (g.children i).reverse [] w.session with
      | (.error e, s) => .error (e, s)
      | (.ok pending, s) => .ok ⟨extend w.path (g.id i), pending.map .reach ++ .finish i :: w.tasks, s⟩

/-- Whether a task is to reach a node whose id stands on a path already. No walk from `start` has one. -/
def strays (path : List String) : Task g → Bool
  | .reach i => decide (g.id i ∈ path)
  | .finish _ => false

/-- What falls with every task: computing a node leaves fewer that are not cached, reaching one leaves fewer
off the path or fewer astray, and passing over a cached one leaves fewer tasks. -/
def measure (w : Walk g) : Nat × Nat × Nat × Nat :=
  (g.unseen g.id w.session.cache.ids, g.unseen g.id w.path, w.tasks.countP (strays w.path), w.tasks.length)

/-- The order in which the measure falls. -/
abbrev Below : Nat × Nat × Nat × Nat → Nat × Nat × Nat × Nat → Prop :=
  Prod.Lex (· < ·) (Prod.Lex (· < ·) (Prod.Lex (· < ·) (· < ·)))

/-- Carrying out the next task makes the measure fall. -/
theorem measure_perform {path : List String} {task : Task g} {rest : List (Task g)} {s : Session} {next : Walk g}
    (h : (Walk.mk path rest s).perform task = .ok next) :
    Below next.measure (Walk.mk path (task :: rest) s).measure := by
  cases task with
  | finish i =>
    simp only [perform] at h
    split at h
    · cases h
    · rename_i s₁ hc
      cases h
      obtain ⟨hnew, hids⟩ := Session.complete_ok hc
      exact Prod.Lex.left _ _ (g.unseen_lt g.id hnew (by simp [hids]) fun k hk => by simp [hids, hk])
  | reach i =>
    simp only [perform] at h
    split at h
    · cases h
      refine Prod.Lex.right _ (Prod.Lex.right _ ?_)
      simp only [List.countP_cons]
      split
      · exact Prod.Lex.left _ _ (Nat.lt_succ_self _)
      · exact Prod.Lex.right _ (Nat.lt_succ_self _)
    · split at h
      · cases h
      · rename_i hc _ pending s₁ hs
        cases h
        have hids := Session.ids_scan g (extend path (g.id i)) (g.children i).reverse [] s
        have hpending := Session.not_mem_path_of_scan hs (by simp)
        rw [hs] at hids
        simp only [measure, hids]
        refine Prod.Lex.right _ ?_
        by_cases hi : g.id i ∈ path
        · have hpath : extend path (g.id i) = path := if_pos hi
          rw [hpath] at hpending ⊢
          refine Prod.Lex.right _ (Prod.Lex.left _ _ ?_)
          have hzero : (pending.map Task.reach).countP (strays path) = 0 := by
            simp only [List.countP_eq_zero, List.mem_map]
            rintro _ ⟨c, hc, rfl⟩
            simpa [strays] using hpending c hc
          simp [hzero, strays, hi]
        · exact Prod.Lex.left _ _ (g.unseen_lt g.id hi (by simp [extend, hi]) fun k hk => by simp [extend, hi, hk])

/-- Carries out the tasks of a walk until none is left or one fails. -/
def run : Walk g → Session.Outcome Unit
  | ⟨_, [], s⟩ => (.ok (), s)
  | ⟨path, task :: rest, s⟩ =>
    match _ : (Walk.mk path rest s).perform task with
    | .error (e, s) => (.error e, s)
    | .ok next => next.run
termination_by w => w.measure
decreasing_by exact measure_perform ‹_›

end Walk

namespace Session

/-- The reliability of a node, whether the session is open or not. -/
def evaluateNode (g : Graph) (i : Fin g.size) (s : Session) : Outcome Handle :=
  match { s with trace := .empty }.look (g.id i) with
  | (some handle, s) => (.ok handle, s)
  | (none, s) =>
    match (Walk.start i s).run with
    | (.error e, s) => (.error e, s)
    | (.ok (), s) =>
      match s.cache.get? (g.id i) with
      | some handle => (.ok handle, s)
      | none => (.error (.missingResult (g.id i)), s)

/-- The reliability of a node in an open session. -/
def evaluate (g : Graph) (i : Fin g.size) (s : Session) : Outcome Handle :=
  if s.closed then (.error .sessionClosed, s) else evaluateNode g i s

/-- Adds the result for an id, in the place of an earlier one. -/
def putResult (results : List (String × Handle)) (id : String) (handle : Handle) : List (String × Handle) :=
  if results.any (·.1 == id) then results.map fun r => if r.1 = id then (id, handle) else r
  else results ++ [(id, handle)]

/-- The reliabilities of several nodes by id, in the order in which the ids first appear. -/
def evaluateMany (g : Graph) :
    List (Fin g.size) → (results : List (String × Handle)) → Session → Outcome (List (String × Handle))
  | [], results, s => (.ok results, s)
  | i :: rest, results, s =>
    match evaluateNode g i s with
    | (.error e, s) => (.error e, s)
    | (.ok handle, s) => evaluateMany g rest (putResult results (g.id i) handle) s

/-- Evaluates a node in an open session, which is closed afterwards in any case. -/
def evaluateOnce (g : Graph) (i : Fin g.size) (s : Session) : Outcome Handle :=
  match evaluate g i s with
  | (result, s) => (result, s.close)

end Session

end ProductLine
