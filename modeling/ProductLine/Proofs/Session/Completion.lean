import Mathlib.Tactic.Common
import ProductLine.Proofs.Session.Canonical
import ProductLine.Proofs.Session.Repetition

/-!
# Which evaluations succeed

A node can be evaluated if every node below it, and it itself, has a reliability at every product, and the presence
conditions of the nodes below it can be used (`Graph.Evaluable`). Where the cached diagrams are right, an evaluation
of such a node succeeds (`exists_evaluateNode`), and everything that an evaluation completes, whether it succeeds or
fails in the end, is such a node with a right diagram in the cache (`Settled.evaluateNode`).
-/

namespace ProductLine

/-- Whether a presence condition is a formula, or a diagram of an owner. -/
def Presence.Usable (owner : Owner) : Presence → Prop
  | .formula text => ∃ f, Formula.ofText text = .ok f
  | .diagram handle => handle.diagram.owner = owner

/-- Whether a node and all nodes that it depends on have a reliability at every product, now and after more features
were declared, and the presence conditions of those that it depends on can be used. -/
structure Graph.Evaluable (checker : Checker) (valid : Diagram) (g : Graph) (space : FeatureSpace)
    (i : Fin g.size) : Prop where
  presence : ∀ c, Relation.TransGen g.Child i c → (g.node c).presence.Usable space.owner
  value : ∀ j, g.Reaches i j → ∀ later, space.Extends later → ∀ x, ∃ v,
    g.valueAt checker valid.owner (valid.evaluate later x) (g.presentAt later x) [] j = .ok v

namespace Graph.Evaluable

variable {checker : Checker} {valid : Diagram} {g : Graph} {space later : FeatureSpace} {i j : Fin g.size}

/-- What is evaluable stays so when features are declared. -/
lemma mono (h : g.Evaluable checker valid space i) (hlater : space.Extends later) :
    g.Evaluable checker valid later i := by
  refine ⟨?_, fun j hj _ hlatest => h.value j hj _ (hlater.trans hlatest)⟩
  intro c hc
  rw [hlater.owner]
  exact h.presence c hc

/-- What lies below an evaluable node is evaluable. -/
lemma of_reaches (h : g.Evaluable checker valid space i) (hj : g.Reaches i j) : g.Evaluable checker valid space j :=
  ⟨fun c hc => h.presence c (.trans_right hj hc), fun k hk => h.value k (hj.trans hk)⟩

/-- A node is evaluable if its children are, with presence conditions that can be used, and it has a value
itself. -/
lemma of_children (hchildren : ∀ c ∈ g.children i, (g.node c).presence.Usable space.owner)
    (hbelow : ∀ c ∈ g.children i, g.Evaluable checker valid space c)
    (hvalue : ∀ later, space.Extends later → ∀ x, ∃ v,
      g.valueAt checker valid.owner (valid.evaluate later x) (g.presentAt later x) [] i = .ok v) :
    g.Evaluable checker valid space i := by
  constructor
  · intro c hc
    obtain ⟨d, hd, hreach⟩ := Relation.TransGen.head'_iff.1 hc
    rcases Relation.reflTransGen_iff_eq_or_transGen.1 hreach with rfl | hreach
    · exact hchildren c hd
    · exact (hbelow d hd).presence c hreach
  · intro j hj
    rcases hj.cases_head with rfl | ⟨c, hc, hreach⟩
    · exact hvalue
    · exact (hbelow c hc).value j hreach

end Graph.Evaluable

/-- A node that has a reliability at a product has an expression. -/
lemma Graph.exists_expression {checker : Checker} {owner : Owner} {g : Graph} {v w : Binary64}
    {present : Fin g.size → Except Error Binary64} {path : List (Fin g.size)} {i : Fin g.size}
    (h : g.valueAt checker owner v present path i = .ok w) :
    ∃ text expression, checker (g.node i).model = .ok text ∧ Expression.parse text = .ok expression := by
  rw [valueAt] at h
  split at h
  · cases h
  · split at h
    · cases h
    · rename_i text hchecker
      split at h
      · cases h
      · rename_i expression hparse
        exact ⟨text, expression, hchecker, hparse⟩

namespace Session

variable {checker : Checker} {valid : Diagram} {g : Graph} {root i : Fin g.size} {s after : Session}

/-! Giving presence conditions -/

/-- A presence condition that can be used is given. -/
lemma exists_presence {α : Type} {node : Node α} (h : node.presence.Usable s.space.owner) :
    ∃ handle after, s.presence node = (.ok handle, after) := by
  rw [presence]
  split
  · rename_i given hgiven
    rw [hgiven] at h
    have howner : given.diagram.owner = s.space.owner := h
    exact ⟨given, s, by rw [if_pos howner]⟩
  · rename_i text htext
    rw [htext] at h
    obtain ⟨f, hf⟩ := h
    split
    · exact ⟨_, _, rfl⟩
    · obtain ⟨r, space, hencode⟩ := FeatureSpace.exists_encode hf s.space
      rw [encodePresence, hencode]
      exact ⟨_, _, rfl⟩

/-- A presence condition that is given can be used. -/
lemma usable_of_presence {α : Type} {node : Node α} (hs : Sound checker valid s) {handle : Handle}
    (h : s.presence node = (.ok handle, after)) : node.presence.Usable s.space.owner := by
  rw [presence] at h
  cases hp : node.presence with
  | diagram given =>
    rw [hp] at h
    simp only at h
    split at h
    · assumption
    · cases h
  | formula text =>
    rw [hp] at h
    simp only at h
    split at h
    · rename_i kept hlookup
      have hvalue := (hs.presences text kept hlookup).value s.space (.refl _) fun _ => false
      simp only [Presence.valueAt] at hvalue
      cases hf : Formula.ofText text with
      | ok f => exact ⟨f, hf⟩
      | error e =>
        rw [hf] at hvalue
        cases hvalue
    · cases encoded_of_encodePresence h with
      | kept hencode =>
        obtain ⟨f, hf, _⟩ := FeatureSpace.encode_holds hencode
        exact ⟨f, hf⟩

/-! Binding children -/

/-- Children that are cached and have presence conditions that can be used are bound. -/
lemma exists_bindChildren {parent : String} {cs : List (Fin g.size)} {bindings : Expression.Bindings}
    (hcached : ∀ c ∈ cs, g.id c ∈ s.cache.ids)
    (husable : ∀ c ∈ cs, (g.node c).presence.Usable s.space.owner) :
    ∃ out after, bindChildren g parent cs bindings s = (.ok out, after) := by
  induction cs generalizing bindings s with
  | nil => exact ⟨bindings, s, rfl⟩
  | cons c rest ih =>
    obtain ⟨reliability, hget⟩ := Cache.mem_ids_iff.1 (hcached c List.mem_cons_self)
    obtain ⟨condition, mid, hp⟩ := exists_presence (husable c List.mem_cons_self)
    have hspace := (kept_extends s.space).presence s (g.node c) (.refl _)
    have hcache := cache_presence s (g.node c)
    rw [hp] at hspace hcache
    have hcache : mid.cache = s.cache := hcache
    rw [bindChildren, hget, hp]
    refine ih ?_ ?_
    · rw [hcache]
      exact fun d hd => hcached d (List.mem_cons_of_mem c hd)
    · rw [show mid.space.owner = s.space.owner from hspace.owner]
      exact fun d hd => husable d (List.mem_cons_of_mem c hd)

/-- What children were bound with success: they are cached, their presence conditions can be used, and their ids
have operands. -/
structure Bound (g : Graph) (s : Session) (out : Expression.Bindings) (c : Fin g.size) : Prop where
  cached : g.id c ∈ s.cache.ids
  usable : (g.node c).presence.Usable s.space.owner
  operand : ∃ operand, out.get? (g.id c) = some operand

/-- If children can be bound, all of them are, and what was bound before is still bound. -/
lemma bound_of_bindChildren {parent : String} {cs : List (Fin g.size)} {bindings out : Expression.Bindings}
    (hs : Sound checker valid s) (h : bindChildren g parent cs bindings s = (.ok out, after)) :
    (∀ c ∈ cs, Bound g s out c) ∧
      ∀ text operand, bindings.get? text = some operand → ∃ operand, out.get? text = some operand := by
  induction cs generalizing bindings s with
  | nil =>
    cases h
    exact ⟨by simp, fun _ operand hoperand => ⟨operand, hoperand⟩⟩
  | cons c rest ih =>
    rw [bindChildren] at h
    split at h
    · cases h
    · rename_i reliability hget
      have hspace := (kept_extends s.space).presence s (g.node c) (.refl _)
      have hcache := cache_presence s (g.node c)
      have hsound := hs.presence (g.node c)
      split at h
      · cases h
      · rename_i condition mid hp
        rw [hp] at hspace hcache hsound
        obtain ⟨hrest, hkept⟩ := ih hsound h
        -- an id may be bound to another operand later, but not to none
        have hkept' (text : String) (hold : text = g.id c ∨ ∃ operand, bindings.get? text = some operand) :
            ∃ operand, out.get? text = some operand := by
          by_cases htext : text = g.id c
          · exact hkept text _ (by rw [Expression.Bindings.get?_put, if_pos htext])
          · obtain ⟨operand, hoperand⟩ := hold.resolve_left htext
            exact hkept text operand (by rw [Expression.Bindings.get?_put, if_neg htext, hoperand])
        refine ⟨?_, fun text operand hoperand => hkept' text (.inr ⟨operand, hoperand⟩)⟩
        intro d hd
        rcases List.mem_cons.1 hd with rfl | hd
        · exact ⟨Cache.mem_ids_iff.2 ⟨_, hget⟩, usable_of_presence hs hp, hkept' _ (.inl rfl)⟩
        · obtain ⟨hcached, husable, hoperand⟩ := hrest d hd
          rw [show mid.cache = s.cache from hcache] at hcached
          rw [show mid.space.owner = s.space.owner from hspace.owner] at husable
          exact ⟨hcached, husable, hoperand⟩

/-- What children are bound to are diagrams of the session's space. -/
lemma owner_of_bindChildren {parent : String} {cs : List (Fin g.size)} {bindings out : Expression.Bindings}
    (hs : s.Canonical)
    (hbound : ∀ text operand, bindings.get? text = some operand →
      ∃ d, operand = .diagram d ∧ d.owner = s.space.owner)
    (h : bindChildren g parent cs bindings s = (.ok out, after)) :
    ∀ text operand, out.get? text = some operand → ∃ d, operand = .diagram d ∧ d.owner = s.space.owner := by
  induction cs generalizing bindings s with
  | nil =>
    cases h
    exact hbound
  | cons c rest ih =>
    rw [bindChildren] at h
    split at h
    · cases h
    · have hspace := (kept_extends s.space).presence s (g.node c) (.refl _)
      have hmid := hs.presence (g.node c)
      split at h
      · cases h
      · rename_i condition mid hp
        rw [hp] at hspace hmid
        have hspace : s.space.Extends mid.space := hspace
        have hcondition := hs.owner_presence hp
        rw [← hspace.owner]
        refine ih hmid ?_ h
        intro text operand hoperand
        rw [Expression.Bindings.get?_put] at hoperand
        split at hoperand
        · cases hoperand
          exact ⟨_, rfl, hcondition⟩
        · rw [hspace.owner]
          exact hbound text operand hoperand

/-! Completing nodes -/

/-- What is known of the cached diagrams of a session below a root, and of the nodes they belong to: the
diagrams are canonical and right, and the nodes evaluable. -/
structure Settled (checker : Checker) (valid : Diagram) (g : Graph) (root : Fin g.size) (base : FeatureSpace)
    (s : Session) : Prop where
  evaluated : Evaluated checker valid g root s
  canonical : s.Canonical
  extends_base : base.Extends s.space
  cached : ∀ i, g.Reaches root i → ∀ handle, s.cache.get? (g.id i) = some handle →
    handle.diagram.Canonical s.space ∧ g.Evaluable checker valid s.space i

/-- What is settled may be looked at from its own feature space. -/
lemma Settled.rebase {base : FeatureSpace} (hs : Settled checker valid g root base s) :
    Settled checker valid g root s.space s :=
  ⟨hs.evaluated, hs.canonical, .refl _, hs.cached⟩

/-- If the children of a node are settled, a node that is computed is evaluable. -/
lemma evaluable_of_compute (hvalid : valid.WellFormed) (hg : g.WellFormed root) (hi : g.Reaches root i)
    {base : FeatureSpace} (hs : Settled checker valid g root base s) {d : Diagram}
    (h : compute g i s = (.ok d, after)) : g.Evaluable checker valid after.space i := by
  have hspace := (kept_extends s.space).compute i (.refl _)
  have hright := right_of_compute hvalid hg hi hs.evaluated.sound
    (fun c hc => hs.evaluated.cached c (hi.tail hc)) h
  rw [h] at hspace
  cases computed_of_compute h with
  | solved _ hbind =>
    have hask := Sound.kept.ask s (g.node i).model hs.evaluated.sound
    obtain ⟨hbound, _⟩ := bound_of_bindChildren hask hbind
    refine .of_children ?_ ?_ ?_
    · intro c hc
      rw [show after.space.owner = s.space.owner from hspace.owner]
      exact (hbound c hc).usable
    · intro c hc
      obtain ⟨handle, hget⟩ := Cache.mem_ids_iff.1 (hbound c hc).cached
      exact (hs.cached c (hi.tail hc) handle hget).2.mono hspace
    · exact fun later hlater x => ⟨_, hright.value later hlater x [] (by simp)⟩

namespace Settled

variable {base : FeatureSpace}

/-- A session stays settled with its trace emptied. -/
lemma untraced (hs : Settled checker valid g root base s) :
    Settled checker valid g root base { s with trace := .empty } :=
  ⟨⟨Sound.kept.untraced s hs.evaluated.sound, hs.evaluated.cached⟩, Canonical.kept.untraced s hs.canonical,
    hs.extends_base, hs.cached⟩

/-- A session stays settled under a lookup. -/
lemma look (hs : Settled checker valid g root base s) (id : String) :
    Settled checker valid g root base (s.look id).2 := by
  have hevaluated := hs.evaluated.look id
  have hcanonical := Canonical.kept.look s id hs.canonical
  obtain ⟨cache, hits, hlook, hentries⟩ := s.look_snd id
  rw [hlook] at hevaluated hcanonical ⊢
  refine ⟨hevaluated, hcanonical, hs.extends_base, ?_⟩
  intro i hi handle hhandle
  rw [Cache.get?, show cache.entries = s.cache.entries from hentries] at hhandle
  exact hs.cached i hi handle hhandle

/-- Completing a node below the root leaves everything settled. -/
lemma complete (hvalid : valid.WellFormed) (hg : g.WellFormed root)
    (hpresence : ∀ c, g.Reaches root c → (g.node c).presence.Canonical base) (hi : g.Reaches root i)
    (hs : Settled checker valid g root base s) : Settled checker valid g root base (complete g i s).2 := by
  have hspace := (kept_extends s.space).complete i (.refl _)
  refine ⟨hs.evaluated.complete hvalid hg hi, Canonical.kept.complete i hs.canonical,
    hs.extends_base.trans hspace, ?_⟩
  intro j hj handle hhandle
  rcases entries_complete g i s with hsame | ⟨d, mid, hcompute, hmid, hmore⟩
  · rw [Cache.get?, hsame] at hhandle
    obtain ⟨hcanonical, hevaluable⟩ := hs.cached j hj handle hhandle
    exact ⟨hcanonical.mono hspace, hevaluable.mono hspace⟩
  · rw [Cache.get?, hmore] at hhandle
    rcases lookup_concat hhandle with hold | ⟨hid, rfl⟩
    · obtain ⟨hcanonical, hevaluable⟩ := hs.cached j hj handle hold
      exact ⟨hcanonical.mono hspace, hevaluable.mono hspace⟩
    · -- the node itself, as no other one below the root has its id
      obtain rfl := hg.distinct j i hj hi hid
      rw [hmid]
      refine ⟨canonical_of_compute hs.canonical ?_ ?_ hcompute, evaluable_of_compute hvalid hg hi hs hcompute⟩
      · exact fun c hc => (hpresence c (hi.tail hc)).mono hs.extends_base
      · exact fun c hc handle hhandle => (hs.cached c (hi.tail hc) handle hhandle).1

/-- Whether it succeeds or fails, an evaluation leaves everything settled. -/
theorem evaluateNode (hvalid : valid.WellFormed) (hg : g.WellFormed root)
    (hpresence : ∀ c, g.Reaches root c → (g.node c).presence.Canonical base)
    (hs : Settled checker valid g root base s) : Settled checker valid g root base (evaluateNode g root s).2 :=
  evaluateNode_keeps (Q := g.Reaches root) (fun hs => hs.untraced) (fun _ id hs => hs.look id)
    (fun _ _ hi hs => hs.complete hvalid hg hpresence hi) (fun _ hi _ hc => hi.tail hc) .refl hs

end Settled

/-! Success -/

/-- What a child is bound to has at every product the value that the child stands for. -/
lemma exists_valueAt_of_bound (hg : g.WellFormed root) (hi : g.Reaches root i) (hs : Sound checker valid s)
    {bindings : Expression.Bindings} (hbound : BoundRight checker valid g i s.space bindings)
    (howner : ∀ text d, bindings.get? text = some (.diagram d) → d.owner = s.space.owner) {c : Fin g.size}
    (hc : c ∈ g.children i) (hoperand : ∃ operand, bindings.get? (g.id c) = some operand) (x : String → Bool) :
    ∃ v, bindings.valueAt s.space.owner (s.space.product x) (g.id c) = .ok v ∧
      g.childAt checker s.space.owner (valid.evaluate s.space x) (g.presentAt s.space x) [i] c = .ok v := by
  obtain ⟨operand, hoperand⟩ := hoperand
  obtain ⟨c', hc', hid, d, rfl, hbelow⟩ := hbound _ operand hoperand
  obtain rfl := hg.distinct c' c (hi.tail hc') (hi.tail hc) hid
  have hchild := hbelow.value s.space (.refl _) x [i] (hg.not_reaches_child hi hc (by simp))
  rw [← hs.owner] at hchild
  refine ⟨_, ?_, hchild⟩
  rw [Expression.Bindings.valueAt, hoperand]
  simp only [Operand.valueAt, if_pos (howner _ d hoperand)]
  rfl

/-- If names are bound to what the children stand for, and the node has a reliability at every product, its
expression has a solution. -/
lemma exists_solve (hg : g.WellFormed root) (hi : g.Reaches root i) (hs : Sound checker valid s)
    (hcanonical : s.Canonical) {bindings : Expression.Bindings}
    (hbound : BoundRight checker valid g i s.space bindings) (hbindings : bindings.Canonical s.space)
    (howner : ∀ text d, bindings.get? text = some (.diagram d) → d.owner = s.space.owner)
    (hall : ∀ c ∈ g.children i, ∃ operand, bindings.get? (g.id c) = some operand) {text : String}
    (hchecker : checker (g.node i).model = .ok text) {expression : Expression}
    (hparse : Expression.parse text = .ok expression)
    (hvalue : ∀ x, ∃ v,
      g.valueAt checker valid.owner (valid.evaluate s.space x) (g.presentAt s.space x) [] i = .ok v) :
    ∃ raw, expression.solve s.space.owner bindings = .ok raw := by
  cases hsolve : expression.solve s.space.owner bindings with
  | ok raw => exact ⟨raw, rfl⟩
  | error err =>
    -- it would have no value at some product, where the reliability of the node is such a value
    obtain ⟨x, hx⟩ := Expression.exists_product_of_error hcanonical.nodup hbindings hsolve
    obtain ⟨v, hv⟩ := hvalue x
    rw [Graph.valueAt_eq (by simp) hchecker hparse, ← hs.owner] at hv
    generalize hscalar : expression.scalar s.space.owner _ = result at hv
    cases result with
    | error e => cases hv
    | ok u =>
      have hnames := Expression.exists_value_of_scalar hscalar
      have hsame := hscalar
      rw [Expression.scalar_congr fun name hname => ?_, hx] at hsame
      · cases hsame
      · obtain ⟨w, hw⟩ := hnames name hname
        cases hfind : (g.children i).find? (g.id · = name) with
        | none =>
          rw [hfind] at hw
          cases hw
        | some c =>
          have hc := List.mem_of_find?_eq_some hfind
          have hid : g.id c = name := by simpa using List.find?_some hfind
          subst hid
          obtain ⟨v, hbinding, hchild⟩ := exists_valueAt_of_bound hg hi hs hbound howner hc (hall c hc) x
          exact hchild.trans hbinding.symm

/-- A node that is ready can be completed if it is evaluable and its children are settled. -/
theorem exists_complete {base : FeatureSpace} (hg : g.WellFormed root)
    (hpresence : ∀ c, g.Reaches root c → (g.node c).presence.Canonical base) (hi : g.Reaches root i)
    (hs : Settled checker valid g root base s) (hready : Ready g i s)
    (hevaluable : g.Evaluable checker valid s.space i) : ∃ after, complete g i s = (.ok (), after) := by
  obtain ⟨v, hv⟩ := hevaluable.value i .refl s.space (.refl _) fun _ => false
  obtain ⟨text, expression, hchecker, hparse⟩ := Graph.exists_expression hv
  have hchecked : s.checker (g.node i).model = .ok text := by
    rw [hs.evaluated.sound.checker]
    exact hchecker
  have hgiven : ∀ c ∈ g.children i, (g.node c).presence.Canonical s.space :=
    fun c hc => (hpresence c (hi.tail hc)).mono hs.extends_base
  have hask := Sound.kept.ask s (g.node i).model hs.evaluated.sound
  have hasked := Canonical.kept.ask s (g.node i).model hs.canonical
  -- all children can be bound, and then the reliability of the node gives its expression a solution
  obtain ⟨out, mid, hbind⟩ : ∃ out mid,
      bindChildren g (g.id i) (g.children i) [] (s.ask (g.node i).model).2 = (.ok out, mid) :=
    exists_bindChildren hready.children fun c hc => hevaluable.presence c (.single hc)
  have hsound := Sound.kept.bindChildren (g.id i) (g.children i) [] hask
  have hcanonical := Canonical.kept.bindChildren (g.id i) (g.children i) [] hasked
  have hspace := (kept_extends s.space).bindChildren (g.id i) (g.children i) []
    ((kept_extends s.space).ask s (g.node i).model (.refl _))
  have hcache := cache_bindChildren g (g.id i) (g.children i) [] (s.ask (g.node i).model).2
  rw [hbind] at hsound hcanonical hspace hcache
  have hcache : mid.cache = s.cache := hcache
  obtain ⟨hbound, _⟩ := bound_of_bindChildren hask hbind
  obtain ⟨raw, hsolve⟩ : ∃ raw, expression.solve mid.space.owner out = .ok raw := by
    refine exists_solve hg hi hsound hcanonical ?_ ?_ ?_ (fun c hc => (hbound c hc).operand) hchecker hparse
      (hevaluable.value i .refl mid.space hspace)
    · exact boundRight_of_bindChildren hask (fun c hc => hc) (fun c hc => hg.presence c (hi.tail hc))
        (fun c hc => hs.evaluated.cached c (hi.tail hc)) (by intro _ _ h; cases h) hbind
    · exact canonical_of_bindChildren hasked hgiven (fun c hc handle h => (hs.cached c (hi.tail hc) handle h).1)
        (by intro _ _ h; cases h) hbind
    · intro name d hd
      have howned := owner_of_bindChildren (s := (s.ask (g.node i).model).2) hasked (by intro _ _ h; cases h) hbind
      obtain ⟨d', heq, howner⟩ := howned name _ hd
      cases heq
      exact howner.trans hspace.owner.symm
  have hcompute : compute g i s = (.ok (mid.featureModel.diagram.mul raw), mid) := by
    simp only [ask] at hbind
    simp only [compute, ask, hchecked, hbind, hparse, hsolve]
  have hnot : mid.cache.contains (g.id i) = false := by
    rw [hcache, ← Bool.not_eq_true, Cache.contains_iff]
    exact hready.new
  simp only [complete, hcompute, make, Cache.put, hnot, Bool.false_eq_true, ↓reduceIte]
  exact ⟨_, rfl⟩

/-- If a root is evaluable, the nodes below it can be evaluated, whatever of them is cached. -/
theorem exists_visit {base : FeatureSpace} (hvalid : valid.WellFormed) (hg : g.WellFormed root)
    (hpresence : ∀ c, g.Reaches root c → (g.node c).presence.Canonical base)
    (hevaluable : g.Evaluable checker valid base root) {path : List String} {trail nodes : List (Fin g.size)}
    (htrail : ∀ i ∈ nodes, g.Trail root trail i) (hpath : trail.map g.id = path)
    (hs : Settled checker valid g root base s) : ∃ after, visit g path nodes s = (.ok (), after) := by
  -- along the evaluation: everything stays settled, and by the trail to a node its id closes no cycle
  induction path, nodes, s using visit.induct g generalizing trail with
  | case1 path s => exact ⟨s, visit_nil⟩
  | case2 path i rest s hcached ih =>
    rw [visit_cached hcached]
    exact ih (fun j hj => htrail j (List.mem_cons_of_mem i hj)) hpath hs
  | case3 path i rest s hcached hi =>
    rw [← hpath] at hi
    exact absurd hg.acyclic ((htrail i List.mem_cons_self).not_acyclic hg.distinct hi)
  | case4 path i rest s hcached hi e mid hscan =>
    obtain ⟨c, hc, hmem, _⟩ := scan_error hscan
    have hnext := (htrail i List.mem_cons_self).next (List.mem_reverse.1 hc)
    refine absurd hg.acyclic (hnext.not_acyclic hg.distinct ?_)
    rw [← hpath] at hmem
    simpa using hmem
  | case5 path i rest s hcached hi pending mid hscan ih₁ ih₂ =>
    have hroot := (htrail i List.mem_cons_self).reaches
    have hnew : g.id i ∉ s.cache.ids := fun hmem => hcached (Cache.contains_iff.2 hmem)
    have hbelow : ∀ c ∈ pending, c ∈ g.children i := by
      intro c hc
      rw [pending_eq hscan] at hc
      exact (List.mem_filter.1 hc).1
    have hmid := scan_keeps (I := Settled checker valid g root base) (fun _ id hs => hs.look id) g
      (path ++ [g.id i]) (g.children i).reverse [] hs
    rw [hscan] at hmid
    -- the children can be evaluated, so the node is ready afterwards
    have htrail' : ∀ c ∈ pending, g.Trail root (trail ++ [i]) c :=
      fun c hc => (htrail i List.mem_cons_self).next (hbelow c hc)
    obtain ⟨s₁, hvisit⟩ := ih₁ htrail' (by simp [hpath]) hmid
    obtain ⟨below, hsearch, hprogress⟩ := visited_children hscan (visit_ok hvisit)
    have hready := ready_of_explored hnew (by simp) hsearch hprogress
    have hs₁ : Settled checker valid g root base (visit g (path ++ [g.id i]) pending mid).2 := by
      apply visit_keeps (Q := g.Reaches root)
      · exact fun _ id hs => hs.look id
      · exact fun _ _ hi hs => hs.complete hvalid hg hpresence hi
      · exact fun _ hi _ hc => hi.tail hc
      · exact fun c hc => hroot.tail (hbelow c hc)
      · exact hmid
    rw [hvisit] at hs₁
    obtain ⟨s₂, hcomplete⟩ := exists_complete hg hpresence hroot hs₁ hready
      ((hevaluable.of_reaches hroot).mono hs₁.extends_base)
    have hs₂ := hs₁.complete hvalid hg hpresence hroot
    rw [hcomplete] at hs₂
    obtain ⟨after, hrest⟩ := ih₂ s₂ (fun j hj => htrail j (List.mem_cons_of_mem i hj)) hpath hs₂
    refine ⟨after, ?_⟩
    rw [visit_of_scan_ok hcached hi hscan, hvisit, Outcome.andThen_ok, hcomplete, Outcome.andThen_ok, hrest]

/-- A node that is evaluable can be evaluated, whatever is cached below it, as long as that is settled. -/
theorem exists_evaluateNode {base : FeatureSpace} (hvalid : valid.WellFormed) (hg : g.WellFormed root)
    (hpresence : ∀ c, g.Reaches root c → (g.node c).presence.Canonical base)
    (hevaluable : g.Evaluable checker valid base root) (hs : Settled checker valid g root base s) :
    ∃ handle after, evaluateNode g root s = (.ok handle, after) := by
  have hlooked := hs.untraced.look (g.id root)
  generalize hlook : { s with trace := .empty }.look (g.id root) = out at hlooked
  obtain ⟨r, mid⟩ := out
  cases r with
  | some handle => exact ⟨handle, mid, by simp only [evaluateNode, hlook]⟩
  | none =>
    obtain ⟨after, hvisit⟩ : ∃ after, visit g [] [root] mid = (.ok (), after) :=
      exists_visit hvalid hg hpresence hevaluable Graph.Trail.of_root rfl hlooked
    obtain ⟨handle, hget⟩ := exists_get?_of_visit hvisit List.mem_cons_self
    exact ⟨handle, after, by simp only [evaluateNode, hlook, Walk.run_eq_visit, hvisit, hget]⟩

end Session

end ProductLine
