import Mathlib.Tactic.Common
import ProductLine.Proofs.Expression.Identifier
import ProductLine.Proofs.Graph.Validation
import ProductLine.Proofs.Session.Resumption

/-!
# Referring to children

The reliability of a child is bound to its id, masked by its presence condition (`maskedBy_of_bindChildren`),
and a variable stands for the child whose id is the name of the variable, if there is one
(`compute_of_variable`). An id that the validator lets pass is read as a variable, but in its normal form: the
parent that consists of it finds the child if the id is in normal form, and finds nothing if no child has the
normal form as its id (`refers_of_badIds`).
-/

namespace ProductLine

open Expression (variableOf variableOf_eq_self)

namespace Session

variable {g : Graph} {i c : Fin g.size} {s after : Session}

/-- Whether a diagram is the cached reliability of a child, masked by its presence condition. -/
def MaskedBy (g : Graph) (s after : Session) (c : Fin g.size) (d : Diagram) : Prop :=
  ∃ reliability condition, s.cache.get? (g.id c) = some reliability ∧
    after.presence (g.node c) = (.ok condition, after) ∧ d = condition.diagram.mul reliability.diagram

/-- What a name is bound to: a child with this id, or what it was bound to before if no child has it. -/
lemma maskedBy_of_bindChildren {parent : String} {cs : List (Fin g.size)} {bindings out : Expression.Bindings}
    (h : bindChildren g parent cs bindings s = (.ok out, after)) (name : String) :
    (∃ c ∈ cs, g.id c = name ∧ ∃ d, MaskedBy g s after c d ∧ out.get? name = some (.diagram d)) ∨
      (∀ c ∈ cs, g.id c ≠ name) ∧ out.get? name = bindings.get? name := by
  induction cs generalizing bindings s with
  | nil =>
    cases h
    exact .inr ⟨List.forall_mem_nil _, rfl⟩
  | cons c rest ih =>
    rw [bindChildren] at h
    split at h
    · cases h
    · rename_i reliability hget
      have hspace := (kept_extends s.space).presence s (g.node c) (.refl _)
      have hcache := cache_presence s (g.node c)
      split at h
      · cases h
      · rename_i condition mid hp
        rw [hp] at hspace hcache
        have hgrown := (kept_extends mid.space).bindChildren parent rest
          (bindings.put (g.id c) (.diagram (condition.diagram.mul reliability.diagram))) (.refl _)
        rw [h] at hgrown
        rcases ih h with ⟨d, hd, hid, masked, ⟨kept, presence, hkept, hmasked⟩, hout⟩ | ⟨hrest, hout⟩
        · rw [show mid.cache = s.cache from hcache] at hkept
          exact .inl ⟨d, List.mem_cons_of_mem c hd, hid, masked, ⟨kept, presence, hkept, hmasked⟩, hout⟩
        · rw [Expression.Bindings.get?_put] at hout
          split at hout
          · rename_i hname
            refine .inl ⟨c, List.mem_cons_self, hname.symm, _, ⟨reliability, condition, hget, ?_, rfl⟩, hout⟩
            -- the presence condition is still known when all children are bound
            refine presence_again hp (hgrown.owner.trans hspace.owner) fun text handle hlookup => ?_
            have hafter := (kept_lookup text handle).bindChildren parent rest
              (bindings.put (g.id c) (.diagram (condition.diagram.mul reliability.diagram))) hlookup
            rwa [h] at hafter
          · rename_i hname
            exact .inr ⟨List.forall_mem_cons.2 ⟨Ne.symm hname, hrest⟩, hout⟩

/-- What masks a child is a diagram of the session. -/
lemma MaskedBy.owner {d : Diagram} (h : MaskedBy g s after c d) (hafter : after.Canonical) :
    d.owner = after.space.owner := by
  obtain ⟨_, _, _, hpresence, rfl⟩ := h
  exact hafter.owner_presence hpresence

/-- The solver finds for a variable the child whose id is its name, and nothing if there is none. -/
lemma compute_of_variable {text name : String} {bindings : Expression.Bindings}
    (hchecker : s.checker (g.node i).model = .ok text) (hparse : Expression.parse text = .ok (.name name))
    (hbind : bindChildren g (g.id i) (g.children i) [] (s.ask (g.node i).model).2 = (.ok bindings, after)) :
    (∃ c ∈ g.children i, g.id c = name ∧ ∃ d, MaskedBy g s after c d ∧
        compute g i s =
          (((Operand.diagram d).toDiagram after.space.owner).map after.featureModel.diagram.mul, after)) ∨
      (∀ c ∈ g.children i, g.id c ≠ name) ∧ compute g i s = (.error (.unbound name bindings.names), after) := by
  have hsolve (r : Except Error Diagram) (h : (Expression.name name).solve after.space.owner bindings = r) :
      compute g i s = (r.map after.featureModel.diagram.mul, after) := by
    rw [compute]
    simp only [ask, hchecker] at hbind ⊢
    simp only [hbind, hparse, h]
    cases r <;> rfl
  rcases maskedBy_of_bindChildren hbind name with ⟨c, hc, hid, d, hmasked, hget⟩ | ⟨hnone, hget⟩
  · refine .inl ⟨c, hc, hid, d, hmasked, hsolve _ ?_⟩
    simp only [Expression.solve, hget]
  · refine .inr ⟨hnone, hsolve (.error _) ?_⟩
    rw [Expression.solve, hget]
    rfl

end Session

namespace Graph

open Session (bindChildren compute MaskedBy compute_of_variable)

variable {g : Graph}

/-- The id of a node that is not reported as bad is a variable. -/
lemma isVariable_of_badIds {nodes : List (Fin g.size)} {c : Fin g.size} (hc : c ∈ nodes)
    (h : Issue.badId (g.id c) ∉ g.badIds nodes) : isVariable (g.id c) = true := by
  by_contra hnot
  refine h (List.mem_map_of_mem (List.mem_filter.2 ⟨List.mem_map_of_mem hc, ?_⟩))
  simpa using hnot

/-- An id that is not reported is an expression by itself, and its normal form is the variable in it. A parent
that consists of the id, all of whose children are bound, is computed from the child with the id if this is in
normal form. If no child has the normal form as its id, the variable is unbound. -/
theorem refers_of_badIds {nodes : List (Fin g.size)} {c : Fin g.size} (hc : c ∈ nodes)
    (hvalid : Issue.badId (g.id c) ∉ g.badIds nodes) :
    Expression.parse (g.id c) = .ok (.name (variableOf (g.id c))) ∧
    Expression.freeVariables (g.id c) = .ok [variableOf (g.id c)] ∧
    ∀ (i : Fin g.size) (s after : Session) (bindings : Expression.Bindings), c ∈ g.children i →
      s.checker (g.node i).model = .ok (g.id c) →
      bindChildren g (g.id i) (g.children i) [] (s.ask (g.node i).model).2 = (.ok bindings, after) →
      (variableOf (g.id c) = g.id c → ∃ child ∈ g.children i, g.id child = g.id c ∧
        ∃ d, MaskedBy g s after child d ∧ (after.Canonical → d.owner = after.space.owner) ∧
          compute g i s =
            (((Operand.diagram d).toDiagram after.space.owner).map after.featureModel.diagram.mul, after)) ∧
      ((∀ child ∈ g.children i, g.id child ≠ variableOf (g.id c)) →
        compute g i s = (.error (.unbound (variableOf (g.id c)) bindings.names), after)) := by
  have hvariable := isVariable_of_badIds hc hvalid
  rw [isVariable, Bool.and_eq_true, Bool.not_eq_true'] at hvariable
  obtain ⟨hname, hkeyword⟩ := hvariable
  have hparse := Expression.parse_of_isName hname hkeyword
  refine ⟨hparse, Expression.freeVariables_of_isName hname hkeyword, ?_⟩
  intro i s after bindings hchild hchecker hbind
  have hcompute := compute_of_variable hchecker hparse hbind
  constructor
  · intro hnormal
    rw [hnormal] at hcompute
    rcases hcompute with ⟨child, hmem, hid, d, hmasked, hcompute⟩ | ⟨hnone, _⟩
    · exact ⟨child, hmem, hid, d, hmasked, hmasked.owner, hcompute⟩
    · exact absurd rfl (hnone c hchild)
  · intro hnone
    rcases hcompute with ⟨child, hmem, hid, _⟩ | ⟨_, hcompute⟩
    · exact absurd hid (hnone child hmem)
    · exact hcompute

/-! Examples: a node that consists of the id of its child -/

/-- Two nodes, the first of which consists of the id of the second, its child. -/
abbrev pair (id : String) : Graph :=
  ⟨2, #v[⟨"r", [1], .formula "a", .datum (.text id)⟩, ⟨id, [], .formula "a", .datum (.text "0.5")⟩]⟩

/-- No id of the pair is reported if that of the child can stand in an expression. -/
lemma badIds_pair {id : String} (h : isVariable id = true) :
    (pair id).badIds ((pair id).reachable (0 : Fin 2)) = [] := by
  refine badIds_reachable_eq_nil.2 fun i _ => ?_
  match i with
  | 0 => exact (by decide : isVariable "r" = true)
  | 1 => exact h

/-- Once the child is evaluated in a fresh session, it is bound for its parent. -/
lemma exists_bound_pair (id : String) : ∃ s₀ handle s after bindings,
    Session.start .standard 0 "a" Checker.plain none = .ok s₀ ∧
    Session.evaluateNode (pair id) (1 : Fin 2) s₀ = (.ok handle, s) ∧
    s.checker ((pair id).node (0 : Fin 2)).model = .ok id ∧ after.Canonical ∧
    bindChildren (pair id) "r" ((pair id).children (0 : Fin 2)) [] (s.ask ((pair id).node (0 : Fin 2)).model).2 =
      (.ok bindings, after) := by
  obtain ⟨s₀, hstart⟩ := Session.exists_start .standard 0 Session.ofText_feature Checker.plain none
  obtain ⟨f, _, hs₀⟩ := Session.Analyses.of_start hstart
  obtain ⟨_, hchecker, hcache, _⟩ := Session.started hstart
  obtain ⟨v, hparse⟩ := Session.exists_parse_number
  obtain ⟨handle, s, heval⟩ := Session.evaluateNode_of_leaf (g := pair id) (i := (1 : Fin 2)) (s := s₀) rfl
    (by rw [hcache]; rfl) (by rw [hchecker]; rfl) hparse rfl
  have hget : s.cache.get? id = some handle := Session.get?_of_evaluateNode heval
  have hs := Session.Analyses.kept.evaluateNode (g := pair id) (1 : Fin 2) hs₀
  rw [heval] at hs
  have hask := Session.Canonical.kept.ask s ((pair id).node (0 : Fin 2)).model hs.canonical
  obtain ⟨bindings, after, hbind⟩ : ∃ bindings after,
      bindChildren (pair id) "r" ((pair id).children (0 : Fin 2)) [] (s.ask ((pair id).node (0 : Fin 2)).model).2 =
        (.ok bindings, after) :=
    Session.exists_bindChildren (List.forall_mem_singleton.2 (Cache.mem_ids_iff.2 ⟨handle, hget⟩))
      (List.forall_mem_singleton.2 ⟨_, Session.ofText_feature⟩)
  have hafter := Session.Canonical.kept.bindChildren "r" ((pair id).children (0 : Fin 2)) [] hask
  rw [hbind] at hafter
  refine ⟨s₀, handle, s, after, bindings, hstart, heval, ?_, hafter, hbind⟩
  rw [hs.sound.checker]
  rfl

/-- A parent is computed from a child whose id it consists of, if this is a letter. -/
theorem refers_of_badIds_letter : ∃ s₀ handle s d after,
    Session.start .standard 0 "a" Checker.plain none = .ok s₀ ∧
    Session.evaluateNode (pair "b") (1 : Fin 2) s₀ = (.ok handle, s) ∧
    compute (pair "b") (0 : Fin 2) s = (.ok d, after) := by
  obtain ⟨s₀, handle, s, after, bindings, hstart, heval, hchecker, hafter, hbind⟩ := exists_bound_pair "b"
  have hvalid : Issue.badId ((pair "b").id (1 : Fin 2)) ∉ (pair "b").badIds [(1 : Fin 2)] := by decide +kernel
  obtain ⟨_, _, hrefers⟩ := refers_of_badIds (List.mem_singleton_self _) hvalid
  have hnormal : variableOf "b" = "b" := variableOf_eq_self (List.forall_mem_singleton.2 (by decide))
  have hmem : (1 : Fin 2) ∈ (pair "b").children (0 : Fin 2) := List.mem_singleton_self _
  obtain ⟨_, _, _, d, _, howner, hcompute⟩ :=
    (hrefers (0 : Fin 2) s after bindings hmem hchecker hbind).1 hnormal
  rw [Operand.toDiagram, if_pos (howner hafter)] at hcompute
  exact ⟨s₀, handle, s, _, after, hstart, heval, hcompute⟩

/-- An id that is a ligature is not reported, but is read as two letters, so a parent that consists of it does
not find its child, which was evaluated. -/
theorem unbound_of_ligature : (pair "\ufb01").badIds ((pair "\ufb01").reachable (0 : Fin 2)) = [] ∧
    Expression.parse "\ufb01" = .ok (.name "fi") ∧ Expression.freeVariables "\ufb01" = .ok ["fi"] ∧
    ∃ s₀ handle s available after,
      Session.start .standard 0 "a" Checker.plain none = .ok s₀ ∧
      Session.evaluateNode (pair "\ufb01") (1 : Fin 2) s₀ = (.ok handle, s) ∧
      compute (pair "\ufb01") (0 : Fin 2) s = (.error (.unbound "fi" available), after) := by
  have hparse : Expression.parse "\ufb01" = .ok (.name "fi") := by decide +kernel
  refine ⟨badIds_pair (by decide +kernel), hparse, by decide +kernel, ?_⟩
  obtain ⟨s₀, handle, s, after, bindings, hstart, heval, hchecker, _, hbind⟩ := exists_bound_pair "\ufb01"
  refine ⟨s₀, handle, s, bindings.names, after, hstart, heval, ?_⟩
  rcases compute_of_variable hchecker hparse hbind with ⟨c, hc, hid, _⟩ | ⟨_, hcompute⟩
  · obtain rfl := List.mem_singleton.1 hc
    exact absurd hid (by decide +kernel)
  · exact hcompute

end Graph

end ProductLine
