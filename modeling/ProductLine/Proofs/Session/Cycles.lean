import Mathlib.Order.WellFounded
import Mathlib.Tactic.Common
import ProductLine.Proofs.Session.Order

/-!
# Cycles and termination

An evaluation carries out one task after the other (`Walk.Step`). No evaluation does so for ever, on graphs
with cycles either (`Walk.wellFounded_step`), and what it returns is what its last walk comes to
(`Walk.exists_ends`). Evaluating with an empty cache and looking for a cycle beforehand agree with each other,
as both succeed exactly if a search from the root is possible (`Session.cycle_found`).
-/

namespace ProductLine

namespace Walk

variable {g : Graph}

/-- Whether a walk becomes another one when its next task is carried out. -/
inductive Step : Walk g → Walk g → Prop where
  | perform {path : List String} {task : Task g} {rest : List (Task g)} {s : Session} {next : Walk g}
      (h : (Walk.mk path rest s).perform task = .ok next) :
    Step ⟨path, task :: rest, s⟩ next

/-- Whether a walk is over, with no task left or at one that fails. -/
inductive Ends : Walk g → Session.Outcome Unit → Prop where
  | done {path : List String} {s : Session} :
    Ends ⟨path, [], s⟩ (.ok (), s)
  | failed {path : List String} {task : Task g} {rest : List (Task g)} {s after : Session} {e : Error}
      (h : (Walk.mk path rest s).perform task = .error (e, after)) :
    Ends ⟨path, task :: rest, s⟩ (.error e, after)

/-- Carrying out tasks comes to an end, as each makes the measure fall. -/
theorem wellFounded_step : WellFounded (Function.swap (Step (g := g))) := by
  have hbelow : WellFounded Below := IsWellFounded.wf
  refine Subrelation.wf ?_ (InvImage.wf measure hbelow)
  intro next w h
  cases h with
  | perform hstep => exact measure_perform hstep

/-- A walk leads to one that is over and gives its result. -/
theorem exists_ends (w : Walk g) : ∃ last, Relation.ReflTransGen Step w last ∧ last.Ends w.run := by
  induction w using wellFounded_step.induction with
  | _ w ih =>
    obtain ⟨path, tasks, s⟩ := w
    cases tasks with
    | nil =>
      rw [run_nil]
      exact ⟨_, .refl, .done⟩
    | cons task rest =>
      cases hstep : (Walk.mk path rest s).perform task with
      | error failure =>
        obtain ⟨e, after⟩ := failure
        rw [run_of_perform_error hstep]
        exact ⟨_, .refl, .failed hstep⟩
      | ok next =>
        rw [run_of_perform_ok hstep]
        obtain ⟨last, hlast, hends⟩ := ih next (.perform hstep)
        exact ⟨last, .head (.perform hstep) hlast, hends⟩

end Walk

namespace Session

variable {g : Graph} {root : Fin g.size} {s : Session}

/-- With nothing cached, an evaluation succeeds only if the validator finds no cycle. -/
lemma cycleIssue_of_ok (hempty : s.cache.entries = []) {handle : Handle} {after : Session}
    (h : evaluateNode g root s = (.ok handle, after)) : g.cycleIssue root = [] := by
  obtain ⟨order, hsearch, _⟩ := evaluateNode_ok h
  rw [Cache.ids, hempty, List.map_nil] at hsearch
  exact Graph.cycleIssue_eq_nil.2 ⟨order, hsearch⟩

/-- With nothing cached and no cycle found by the validator, an evaluation fails only at a node that is ready. -/
lemma ready_of_cycleIssue (hempty : s.cache.entries = []) (hvalid : g.cycleIssue root = []) {e : Error}
    {after : Session} (h : evaluateNode g root s = (.error e, after)) :
    ∃ i order mid, g.Reaches root i ∧ Progress g { s with trace := .empty } mid order ∧ Ready g i mid ∧
      (complete g i mid).1 = .error e := by
  cases evaluateNode_error h with
  | closed _ hsearch =>
    obtain ⟨order, horder⟩ := Graph.cycleIssue_eq_nil.1 hvalid
    have hnot : Graph.Apart [] s.cache.ids → ∀ order, ¬ g.Explored [] s.cache.ids [root] order := hsearch
    rw [Cache.ids, hempty, List.map_nil] at hnot
    exact absurd horder (hnot (by simp [Graph.Apart]) order)
  | @node i order mid _ hi hprogress hready hfail => exact ⟨i, order, mid, hi, hprogress, hready, hfail⟩

/-- No evaluation goes on for ever. With nothing cached, it fails with a cycle only if the validator finds one
or the checker raises this error, and it fails with a cycle or at a node whose children are computed if the
validator finds one. If ids are distinct, the validator finds a cycle exactly if there is one below the root.
A cycle that an evaluation fails with is a cycle of ids below the root, whatever is cached, unless the checker
raises it. -/
theorem cycle_found (g : Graph) (root : Fin g.size) (s : Session) :
    ((¬ ∃ walk : Nat → Walk g, ∀ n, (walk n).Step (walk (n + 1))) ∧
      ∀ mid, ∃ last, Relation.ReflTransGen Walk.Step (.start root mid) last ∧ last.Ends (Walk.start root mid).run) ∧
    (s.cache.entries = [] → g.cycleIssue root = [] → ∀ p after,
      evaluateNode g root s = (.error (.cycle p), after) →
        ∃ i, g.Reaches root i ∧ s.checker (g.node i).model = .error (.cycle p)) ∧
    (s.cache.entries = [] → g.cycleIssue root ≠ [] → ∃ e after,
      evaluateNode g root s = (.error e, after) ∧
        ((∃ p, e = .cycle p ∧ g.IsCycle root p) ∨
          ∃ i order mid, g.Reaches root i ∧ Progress g { s with trace := .empty } mid order ∧ Ready g i mid ∧
            (complete g i mid).1 = .error e)) ∧
    (g.DistinctIds root →
      (g.cycleIssue root ≠ [] ↔ ∃ i, g.Reaches root i ∧ Relation.TransGen g.Child i i)) ∧
    ∀ p after, evaluateNode g root s = (.error (.cycle p), after) →
      g.IsCycle root p ∨ ∃ i, g.Reaches root i ∧ s.checker (g.node i).model = .error (.cycle p) := by
  refine ⟨⟨?_, fun mid => Walk.exists_ends _⟩, ?_, ?_, ?_, ?_⟩
  · rintro ⟨walk, hwalk⟩
    exact (wellFounded_iff_isEmpty_descending_chain.1 Walk.wellFounded_step).false ⟨walk, hwalk⟩
  · intro hempty hvalid p after h
    obtain ⟨i, order, mid, hi, hprogress, hready, hfail⟩ := ready_of_cycleIssue hempty hvalid h
    exact ⟨i, hi, checker_of_ready hprogress hready hfail trivial⟩
  · intro hempty hcycle
    generalize hout : evaluateNode g root s = out
    obtain ⟨e | handle, after⟩ := out
    · refine ⟨e, after, rfl, ?_⟩
      cases evaluateNode_error hout with
      | closed hclosed => exact .inl ⟨_, rfl, hclosed⟩
      | @node i order mid _ hi hprogress hready hfail => exact .inr ⟨i, order, mid, hi, hprogress, hready, hfail⟩
    · exact absurd (cycleIssue_of_ok hempty hout) hcycle
  · intro hdistinct
    rw [Ne, Graph.cycleIssue_eq_nil, ← Graph.acyclic_iff_explored hdistinct, Graph.Acyclic]
    push Not
    rfl
  · intro p after h
    cases evaluateNode_error h with
    | closed hclosed => exact .inl hclosed
    | @node i _ _ _ hi hprogress hready hfail =>
      exact .inr ⟨i, hi, checker_of_ready hprogress hready hfail trivial⟩

/-- The theorem applies, for example, to a fresh session and a node that is its own child: the validator finds the
cycle, and the evaluation fails with one. -/
theorem cycle_found_loop : ∃ s p after, s.cache.entries = [] ∧
    (Graph.loop "r" (.formula "a") (.datum (.text "r"))).cycleIssue (0 : Fin 1) ≠ [] ∧
    evaluateNode (.loop "r" (.formula "a") (.datum (.text "r"))) (0 : Fin 1) s = (.error (.cycle p), after) ∧
    (Graph.loop "r" (.formula "a") (.datum (.text "r"))).IsCycle (0 : Fin 1) p := by
  obtain ⟨s, _, _, _, hempty, _⟩ := exists_evaluated
  obtain ⟨_, _, hfound, hiff, _⟩ :=
    cycle_found (.loop "r" (.formula "a") (.datum (.text "r"))) (0 : Fin 1) s
  have hdistinct : (Graph.loop "r" (.formula "a") (.datum (.text "r"))).DistinctIds (0 : Fin 1) :=
    fun i j _ _ _ => Subsingleton.elim (α := Fin 1) i j
  have hcycle := (hiff hdistinct).2 ⟨(0 : Fin 1), .refl, .single List.mem_cons_self⟩
  obtain ⟨e, after, heval, ⟨p, rfl, hclosed⟩ | ⟨i, order, mid, _, _, hready, _⟩⟩ := hfound hempty hcycle
  · exact ⟨s, p, after, hempty, hcycle, heval, hclosed⟩
  · -- the node is never ready, as it waits for itself
    obtain rfl := Subsingleton.elim (α := Fin 1) i 0
    exact absurd (hready.children (0 : Fin 1) List.mem_cons_self) hready.new

end Session

end ProductLine
