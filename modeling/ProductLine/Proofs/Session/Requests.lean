import Mathlib.Tactic.Common
import ProductLine.Proofs.Session.Renewal

/-!
# Requests for presence conditions

All that an evaluation does to the presence conditions of a session and to its warnings it does by asking for
the conditions of children (`Walk.requests`), so a run of a session is a run of such requests with steps
between them that touch neither (`Passes`, `Session.passes_requests`). Each request is answered as its
condition and the texts kept so far say (`Requested`), and from this single step follows what holds after all
requests between two times at which the conditions are forgotten (`Coherent`, `Session.coherent_of_run`): a
formula is encoded once and warned about once.
-/

namespace ProductLine

/-- A request for the presence condition of a node, with the answer and the warnings it caused. -/
structure Request where
  id : String
  condition : Presence
  answer : Except Error Handle
  warned : List Warning

namespace Session

/-- The request for the presence condition of a node in a session. -/
def request {α : Type} (s : Session) (node : Node α) : Request where
  id := node.id
  condition := node.presence
  answer := (s.presence node).1
  warned := (s.presence node).2.warnings.drop s.warnings.length

/-- The requests made when children are bound: they end with the first that fails. -/
def childRequests (g : Graph) : List (Fin g.size) → Session → List Request
  | [], _ => []
  | c :: rest, s =>
    match s.cache.get? (g.id c) with
    | none => []
    | some _ =>
      s.request (g.node c) ::
        match s.presence (g.node c) with
        | (.error _, _) => []
        | (.ok _, s) => childRequests g rest s

/-- The requests made when a node is computed. -/
def computeRequests (g : Graph) (i : Fin g.size) (s : Session) : List Request :=
  match s.ask (g.node i).model with
  | (.error _, _) => []
  | (.ok _, s) => childRequests g (g.children i) s

end Session

/-- The requests made by a task. -/
def Task.requests {g : Graph} (s : Session) : Task g → List Request
  | .finish i => s.computeRequests g i
  | .reach _ => []

/-- The requests made by a walk. -/
def Walk.requests {g : Graph} : Walk g → List Request
  | ⟨_, [], _⟩ => []
  | ⟨path, task :: rest, s⟩ =>
    task.requests s ++
      match _ : (Walk.mk path rest s).perform task with
      | .error _ => []
      | .ok next => next.requests
termination_by w => w.measure
decreasing_by exact Walk.measure_perform ‹_›

namespace Session

/-- The requests made by the evaluation of a node. -/
def nodeRequests (g : Graph) (i : Fin g.size) (s : Session) : List Request :=
  match { s with trace := .empty }.look (g.id i) with
  | (some _, _) => []
  | (none, s) => (Walk.start i s).requests

/-- The requests made by the evaluation of several nodes. -/
def manyRequests (g : Graph) : List (Fin g.size) → Session → List Request
  | [], _ => []
  | i :: rest, s =>
    s.nodeRequests g i ++
      match evaluateNode g i s with
      | (.error _, _) => []
      | (.ok _, s) => manyRequests g rest s

/-- The requests made by a call. -/
def Call.requests (s : Session) : Call → List Request
  | evaluate g i => if s.closed then [] else s.nodeRequests g i
  | evaluateNode g i => s.nodeRequests g i
  | evaluateMany g nodes => s.manyRequests g nodes
  | presence g i => [s.request (g.node i)]
  | _ => []

/-- The requests made by some calls. -/
def requests (s : Session) : List Call → List Request
  | [] => []
  | call :: rest => call.requests s ++ requests (call.respond s).2 rest

/-- Whether a call forgets no presence conditions. -/
def Call.Keeps : Call → Prop
  | clear => False
  | close => False
  | _ => True

/-! What happens between requests -/

/-- Whether one session leads to another without a change of the presence conditions and the warnings. -/
structure Quiet (s t : Session) : Prop where
  checker : t.checker = s.checker
  featureModel : t.featureModel = s.featureModel
  presences : t.presences = s.presences
  warnings : t.warnings = s.warnings
  space : s.space.Extends t.space
  nodup : s.space.features.Nodup → t.space.features.Nodup

/-- A change of the cache, the trace and the supply is quiet. -/
lemma Quiet.of_rest (s : Session) (cache : Cache) (trace : Trace) (supply : Nat) :
    s.Quiet { s with cache, trace, supply } :=
  ⟨rfl, rfl, rfl, rfl, .refl _, id⟩

/-- A lookup is quiet. -/
lemma Quiet.look (s : Session) (id : String) : s.Quiet (s.look id).2 := by
  obtain ⟨cache, hits, hlook, _⟩ := s.look_snd id
  rw [hlook]
  exact .of_rest s cache _ s.supply

/-- Declaring features is quiet. -/
lemma Quiet.declare (s : Session) (names : List String) : s.Quiet { s with space := s.space.declare names } :=
  ⟨rfl, rfl, rfl, rfl, s.space.declare_extends_self names, fun h => FeatureSpace.nodup_declare h names⟩

/-- A quiet step keeps a session faithful. -/
lemma Quiet.faithful {checker : Checker} {places : Option Nat} {source : String} {s t : Session} (h : s.Quiet t)
    (hs : s.Faithful checker places source) : t.Faithful checker places source where
  checker := h.checker.trans hs.checker
  places := by rw [h.space.owner, hs.places]
  nodup := h.nodup hs.nodup
  featureModel := by
    rw [h.featureModel]
    exact hs.featureModel.mono h.space
  presences := by
    rw [h.presences]
    exact fun e he => (hs.presences e he).mono h.space

/-- Whether one session leads to another by requests, in their order, and quiet steps. -/
inductive Passes (s : Session) : List Request → Session → Prop where
  | refl : Passes s [] s
  | quiet {log : List Request} {t u : Session} (h : Passes s log t) (hquiet : t.Quiet u) : Passes s log u
  | request {log : List Request} {t : Session} (h : Passes s log t) {α : Type} (node : Node α) :
    Passes s (log ++ [t.request node]) (t.presence node).2

namespace Passes

variable {s t u : Session} {log more : List Request} {g : Graph}

/-- The requests of two runs are made one after the other. -/
lemma trans (h : Passes s log t) (h' : Passes t more u) : Passes s (log ++ more) u := by
  induction h' with
  | refl => rwa [List.append_nil]
  | quiet _ hquiet ih => exact .quiet ih hquiet
  | request _ node ih =>
    rw [← List.append_assoc]
    exact .request ih node

/-- Asking for a presence condition is a single request. -/
lemma single {α : Type} (s : Session) (node : Node α) : Passes s [s.request node] (s.presence node).2 :=
  .request .refl node

/-- A quiet step makes no request. -/
lemma of_quiet (h : s.Quiet t) : Passes s [] t := .quiet .refl h

/-- Binding children makes their requests. -/
lemma bindChildren (parent : String) (cs : List (Fin g.size)) (bindings : Expression.Bindings) (s : Session) :
    Passes s (childRequests g cs s) (bindChildren g parent cs bindings s).2 := by
  induction cs generalizing bindings s with
  | nil => exact .refl
  | cons c rest ih =>
    have hsingle := single s (g.node c)
    rw [childRequests, Session.bindChildren]
    cases s.cache.get? (g.id c) with
    | none => exact .refl
    | some reliability =>
      simp only
      generalize s.presence (g.node c) = out at hsingle
      obtain ⟨r, after⟩ := out
      cases r with
      | error e => exact hsingle
      | ok condition => exact hsingle.trans (ih _ after)

/-- Computing a node makes the requests of its children. -/
lemma compute (i : Fin g.size) (s : Session) : Passes s (s.computeRequests g i) (compute g i s).2 := by
  have hask : s.Quiet (s.ask (g.node i).model).2 := .of_rest s s.cache _ s.supply
  rw [computeRequests, Session.compute]
  generalize s.ask (g.node i).model = out at hask
  obtain ⟨r, asked⟩ := out
  cases r with
  | error e => exact of_quiet hask
  | ok text =>
    have hbound := (of_quiet hask).trans (bindChildren (g.id i) (g.children i) [] asked)
    simp only
    generalize Session.bindChildren g (g.id i) (g.children i) [] asked = out at hbound
    obtain ⟨r, after⟩ := out
    cases r with
    | error e => exact hbound
    | ok bindings =>
      simp only
      split
      · exact hbound
      · split
        · exact hbound
        · exact hbound

/-- Completing a node makes the requests of its children. -/
lemma complete (i : Fin g.size) (s : Session) : Passes s (s.computeRequests g i) (complete g i s).2 := by
  have hcompute := compute i s
  generalize hout : Session.complete g i s = out
  obtain ⟨r, after⟩ := out
  cases completed_of_complete hout with
  | failed h => rwa [h] at hcompute
  | @refused d _ mid h =>
    rw [h] at hcompute
    exact hcompute.quiet (.of_rest mid mid.cache mid.trace (mid.supply + 1))
  | @recorded d mid cache h =>
    rw [h] at hcompute
    exact hcompute.quiet (.of_rest mid cache _ (mid.supply + 1))

/-- Scanning children makes no request. -/
lemma scan (path : List String) (cs pending : List (Fin g.size)) (s : Session) :
    Passes s [] (scan g path cs pending s).2 := by
  induction cs generalizing pending s with
  | nil => exact .refl
  | cons c rest ih =>
    have hlook := of_quiet (Quiet.look s (g.id c))
    rw [Session.scan]
    split
    · exact .refl
    · generalize s.look (g.id c) = out at hlook
      obtain ⟨found, after⟩ := out
      cases found with
      | some _ => exact hlook.trans (ih pending after)
      | none => exact hlook.trans (ih (c :: pending) after)

/-- Carrying out a task passes from the session of a walk to the one it leaves, whether it fails or not. -/
lemma perform (w : Walk g) (task : Task g) :
    match w.perform task with
    | .error (_, t) => Passes w.session (task.requests w.session) t
    | .ok next => Passes w.session (task.requests w.session) next.session := by
  cases task with
  | finish i =>
    have hcomplete := complete i w.session
    rw [Walk.perform]
    generalize Session.complete g i w.session = out at hcomplete
    obtain ⟨r, after⟩ := out
    cases r with
    | error e => exact hcomplete
    | ok _ => exact hcomplete
  | reach i =>
    rw [Walk.perform]
    by_cases hcached : w.session.cache.contains (g.id i) = true
    · rw [if_pos hcached]
      exact .refl
    · have hscan := scan (Walk.extend w.path (g.id i)) (g.children i).reverse [] w.session
      rw [if_neg hcached]
      generalize Session.scan g (Walk.extend w.path (g.id i)) (g.children i).reverse [] w.session = out at hscan
      obtain ⟨r, after⟩ := out
      cases r with
      | error e => exact hscan
      | ok pending => exact hscan

/-- A walk makes the requests of its tasks. -/
lemma run (w : Walk g) : Passes w.session w.requests w.run.2 := by
  fun_induction Walk.run w with
  | case1 path s =>
    rw [Walk.requests]
    exact .refl
  | case2 path task rest s e after hperform =>
    have hstep := perform ⟨path, rest, s⟩ task
    rw [hperform] at hstep
    rw [Walk.requests]
    split
    · rw [List.append_nil]
      exact hstep
    · rename_i hnext
      cases hperform.symm.trans hnext
  | case3 path task rest s next hperform ih =>
    have hstep := perform ⟨path, rest, s⟩ task
    rw [hperform] at hstep
    rw [Walk.requests]
    split
    · rename_i hfailed
      cases hperform.symm.trans hfailed
    · rename_i hnext
      cases hperform.symm.trans hnext
      exact hstep.trans ih

/-- Evaluating a node makes the requests of its walk. -/
lemma evaluateNode (i : Fin g.size) (s : Session) : Passes s (s.nodeRequests g i) (evaluateNode g i s).2 := by
  have huntraced : s.Quiet { s with trace := .empty } := .of_rest s s.cache _ s.supply
  have hlook := (of_quiet huntraced).quiet (Quiet.look _ (g.id i))
  rw [nodeRequests, Session.evaluateNode]
  generalize { s with trace := .empty }.look (g.id i) = out at hlook
  obtain ⟨found, mid⟩ := out
  cases found with
  | some handle => exact hlook
  | none =>
    have hrun := hlook.trans (run (Walk.start i mid))
    simp only
    generalize (Walk.start i mid).run = out at hrun
    obtain ⟨r, after⟩ := out
    cases r with
    | error e => exact hrun
    | ok _ =>
      simp only
      split
      · exact hrun
      · exact hrun

/-- Evaluating several nodes makes the requests of each. -/
lemma evaluateMany (nodes : List (Fin g.size)) (results : List (String × Handle)) (s : Session) :
    Passes s (s.manyRequests g nodes) (evaluateMany g nodes results s).2 := by
  induction nodes generalizing results s with
  | nil => exact .refl
  | cons i rest ih =>
    have hnode := evaluateNode i s
    rw [manyRequests, Session.evaluateMany]
    generalize Session.evaluateNode g i s = out at hnode
    obtain ⟨r, after⟩ := out
    cases r with
    | error e =>
      rw [List.append_nil]
      exact hnode
    | ok handle => exact hnode.trans (ih _ after)

/-- A call that forgets no presence conditions passes to the session after it by its requests. -/
lemma respond {call : Call} (hcall : call.Keeps) (s : Session) : Passes s (call.requests s) (call.respond s).2 := by
  cases call with
  | evaluate g i =>
    have hnode := evaluateNode i s (g := g)
    simp only [Call.requests, Call.respond, Session.evaluate]
    cases s.closed with
    | true => exact .refl
    | false =>
      simp only [Bool.false_eq_true, if_false]
      generalize Session.evaluateNode g i s = out at hnode
      obtain ⟨r, after⟩ := out
      cases r with
      | error e => exact hnode
      | ok handle => exact hnode
  | evaluateNode g i =>
    have hnode := evaluateNode i s (g := g)
    simp only [Call.requests, Call.respond]
    generalize Session.evaluateNode g i s = out at hnode
    obtain ⟨r, after⟩ := out
    cases r with
    | error e => exact hnode
    | ok handle => exact hnode
  | evaluateMany g nodes =>
    have hnodes := evaluateMany nodes [] s (g := g)
    simp only [Call.requests, Call.respond]
    generalize Session.evaluateMany g nodes [] s = out at hnodes
    obtain ⟨r, after⟩ := out
    cases r with
    | error e => exact hnodes
    | ok results => exact hnodes
  | presence g i => exact single s (g.node i)
  | declare names => exact of_quiet (.declare s names)
  | reset => exact of_quiet (.of_rest s .empty s.trace s.supply)
  | clear => exact hcall.elim
  | close => exact hcall.elim

end Passes

/-- Calls that forget no presence conditions pass to the session after them by their requests. -/
theorem passes_requests {calls : List Call} (hcalls : ∀ call ∈ calls, call.Keeps) (s : Session) :
    Passes s (s.requests calls) (s.after calls) := by
  induction calls generalizing s with
  | nil => exact .refl
  | cons call rest ih =>
    have hcall := Passes.respond (hcalls call List.mem_cons_self) s
    exact hcall.trans (ih (fun c hc => hcalls c (List.mem_cons_of_mem call hc)) _)

end Session

end ProductLine
