import Mathlib.Tactic.Common
import ProductLine.Proofs.Session.Revision

/-!
# Sessions after a failure

A fresh session is one that was cleared, or started anew (`Session.Fresh`). A cached diagram is correct if it has at
every product the value that a fresh session computes (`Session.Correct`). From correct diagrams in the cache, an
evaluation that fails leaves correct diagrams only, and one more evaluation fails in the same way. If models were
replaced that no cached diagram was computed from, and a fresh session could evaluate the root, so can the session
that failed, with the same values (`resumes_of_error`). Below a node that is cached models must stay, as its diagram
is not computed again (`stale_below_cached`).
-/

namespace ProductLine

namespace Session

variable {checker : Checker} {places : Option Nat} {source : String} {f : Formula} {valid valid' : Diagram}
  {g : Graph} {root i : Fin g.size} {s t t' : Session} {handle : Handle}

/-- Whether a session is fresh: it is the given one with everything forgotten, or it was started with the same
feature model, checker and rounding in a space of its own, where no presence condition of the graph was made. -/
inductive Fresh (checker : Checker) (places : Option Nat) (source : String) (g : Graph) (root : Fin g.size)
    (s : Session) : Session → Prop where
  | cleared : Fresh checker places source g root s s.clear
  | started {settings : Settings} {serial : Nat} {builder : Option Builder} {t : Session}
      (hstart : start settings serial source checker builder = .ok t) (hplaces : settings.places = places)
      (hnew : ∀ c, g.Reaches root c → ∀ handle, (g.node c).presence = .diagram handle →
        handle.diagram.owner ≠ t.space.owner) :
    Fresh checker places source g root s t

/-- Whether a diagram of a session has at every product the value that a fresh session computes for a node. -/
def Correct (checker : Checker) (places : Option Nat) (source : String) (g : Graph) (root : Fin g.size)
    (s : Session) (i : Fin g.size) (d : Diagram) : Prop :=
  d.Canonical s.space ∧ ∃ t handle t', Fresh checker places source g root s t ∧
    evaluateNode g i t = (.ok handle, t') ∧ ∀ x, d.evaluate s.space x = handle.diagram.evaluate t'.space x

/-- With nothing cached, everything cached is settled. -/
lemma Settled.of_empty (hs : Analyses checker places f valid s) (hempty : s.cache.entries = []) :
    Settled checker valid g root s.space s := by
  refine ⟨⟨hs.sound, ?_⟩, hs.canonical, .refl _, ?_⟩
  · intro i _ handle hhandle
    rw [Cache.get?, hempty] at hhandle
    cases hhandle
  · intro i _ handle hhandle
    rw [Cache.get?, hempty] at hhandle
    cases hhandle

section Fresh

variable (hf : Formula.ofText source = .ok f) (hs : Analyses checker places f valid s)
  (hpresence : ∀ c, g.Reaches root c → (g.node c).presence.Canonical s.space)

include hf hs hpresence

/-- A fresh session has nothing cached and analyses the same products, with presence conditions that mean the
same. -/
lemma Fresh.analyses (h : Fresh checker places source g root s t) :
    (∃ valid', Analyses checker places f valid' t) ∧ t.cache.entries = [] ∧
      (∀ c, g.Reaches root c → (g.node c).presence.Canonical t.space) ∧ Concordant g root s t := by
  cases h with
  | cleared =>
    -- the space is the same, and canonical diagrams mean the same in all that come from it
    refine ⟨⟨valid, hs.clear⟩, rfl, hpresence, fun _ _ h => h, ?_⟩
    intro c hc husable later hlater later' hlater' x
    have hcanonical := hpresence c hc
    rw [Graph.presentAt, Graph.presentAt]
    cases hp : (g.node c).presence with
    | formula text => rfl
    | diagram given =>
      rw [hp] at husable hcanonical
      have hgiven : given.diagram.Canonical s.space := hcanonical husable
      have hspace : s.space.Extends later' := hlater'
      rw [Presence.valueAt, Presence.valueAt, hgiven.evaluate_later hlater, hgiven.evaluate_later hspace]
  | started hstart hplaces hnew =>
    -- no presence condition is a diagram of the new space, and formulas mean the same everywhere
    obtain ⟨f', hf', ht⟩ := Analyses.of_start hstart
    obtain rfl := Except.ok.inj (hf'.symm.trans hf)
    rw [hplaces] at ht
    obtain ⟨_, _, hcache, _⟩ := Session.started hstart
    refine ⟨⟨_, ht⟩, by rw [hcache]; rfl, ?_, ?_, ?_⟩
    · intro c hc
      cases hp : (g.node c).presence with
      | formula text => trivial
      | diagram given => exact fun howner => absurd howner (hnew c hc given hp)
    · intro c hc husable
      cases hp : (g.node c).presence with
      | formula text =>
        rw [hp] at husable
        exact husable
      | diagram given =>
        rw [hp] at husable
        exact absurd husable (hnew c hc given hp)
    · intro c hc husable later _ later' _ x
      rw [Graph.presentAt, Graph.presentAt]
      cases hp : (g.node c).presence with
      | formula text => rfl
      | diagram given =>
        rw [hp] at husable
        exact absurd husable (hnew c hc given hp)

/-- What is known of a node that a fresh session evaluated: its diagram is right there, it is evaluable there,
and the session is in concord with the given one. -/
structure FreshRun (checker : Checker) (places : Option Nat) (f : Formula) (g : Graph) (root i : Fin g.size)
    (s t t' : Session) (valid : Diagram) (d : Diagram) : Prop where
  analyses : Analyses checker places f valid t
  concordant : Concordant g root s t
  grown : t.space.Extends t'.space
  right : Right checker valid g t'.space i d
  evaluable : g.Evaluable checker valid t'.space i

/-- What is known after a fresh session has evaluated a node. -/
lemma Fresh.run (hg : g.WellFormed root) (hi : g.Reaches root i) (h : Fresh checker places source g root s t)
    (heval : evaluateNode g i t = (.ok handle, t')) :
    ∃ valid', FreshRun checker places f g root i s t t' valid' handle.diagram := by
  obtain ⟨⟨valid', ht⟩, hempty, hgiven, hconcordant⟩ := h.analyses hf hs hpresence
  have hgrown := (kept_extends t.space).evaluateNode i (.refl _)
  have hsettled := (Settled.of_empty ht hempty).evaluateNode ht.wellFormed (hg.of_reaches hi)
    fun c hc => hgiven c (hi.trans hc)
  rw [heval] at hgrown hsettled
  have hget := get?_of_evaluateNode heval
  exact ⟨valid', ht, hconcordant, hgrown, hsettled.evaluated.cached i .refl handle hget,
    (hsettled.cached i .refl handle hget).2⟩

omit hf hs hpresence in
/-- The presence conditions below a node that was evaluated can be used. -/
lemma FreshRun.usable {d : Diagram} (h : FreshRun checker places f g root i s t t' valid d) :
    ∀ c, Relation.TransGen g.Child i c → (g.node c).presence.Usable t.space.owner := by
  intro c hc
  rw [← h.grown.owner]
  exact h.evaluable.presence c hc

/-- A correct diagram of a node is right, and the node is evaluable. -/
lemma right_of_correct (hg : g.WellFormed root) (hi : g.Reaches root i) {d : Diagram}
    (h : Correct checker places source g root s i d) :
    Right checker valid g s.space i d ∧ g.Evaluable checker valid s.space i := by
  obtain ⟨hcanonical, t, handle, t', hfresh, heval, hvalue⟩ := h
  obtain ⟨valid', hrun⟩ := hfresh.run hf hs hpresence hg hi heval
  exact ⟨right_of_concordant hs hrun.analyses hrun.concordant hi hrun.grown hrun.usable hcanonical
      hrun.right hvalue,
    evaluable_of_concordant hs hrun.analyses hrun.concordant hi hrun.grown hrun.evaluable⟩

/-- A right diagram has at every product the value that any fresh session computes. -/
lemma evaluate_eq_fresh (hg : g.WellFormed root) (hi : g.Reaches root i) {d : Diagram}
    (hd : Right checker valid g s.space i d) (hfresh : Fresh checker places source g root s t)
    (heval : evaluateNode g i t = (.ok handle, t')) (x : String → Bool) :
    d.evaluate s.space x = handle.diagram.evaluate t'.space x := by
  obtain ⟨valid', hrun⟩ := hfresh.run hf hs hpresence hg hi heval
  exact evaluate_of_concordant hs hrun.analyses hrun.concordant hi hrun.grown hrun.usable hd hrun.right x

/-- A right diagram of an evaluable node is correct: the session evaluates the node to it after it was cleared. -/
lemma correct_of_right (hg : g.WellFormed root) (hi : g.Reaches root i) {d : Diagram}
    (hcanonical : d.Canonical s.space)
    (hd : Right checker valid g s.space i d) (hevaluable : g.Evaluable checker valid s.space i) :
    Correct checker places source g root s i d := by
  have hcleared : Settled checker valid g i s.clear.space s.clear := .of_empty hs.clear rfl
  obtain ⟨handle, t', heval⟩ := exists_evaluateNode hs.wellFormed (hg.of_reaches hi)
    (fun c hc => hpresence c (hi.trans hc)) hevaluable hcleared
  exact ⟨hcanonical, _, handle, t', .cleared, heval, evaluate_eq_fresh hf hs hpresence hg hi hd .cleared heval⟩

/-- With correct diagrams cached, everything cached is settled. -/
lemma settled_of_correct (hg : g.WellFormed root)
    (hcached : ∀ i, g.Reaches root i → ∀ handle, s.cache.get? (g.id i) = some handle →
      Correct checker places source g root s i handle.diagram) : Settled checker valid g root s.space s := by
  refine ⟨⟨hs.sound, ?_⟩, hs.canonical, .refl _, ?_⟩
  · intro i hi handle hhandle
    exact (right_of_correct hf hs hpresence hg hi (hcached i hi handle hhandle)).1
  · intro i hi handle hhandle
    have hcorrect := hcached i hi handle hhandle
    exact ⟨hcorrect.1, (right_of_correct hf hs hpresence hg hi hcorrect).2⟩

end Fresh

/-! Replaced models -/

/-- If models were replaced that no cached diagram was computed from, what is settled stays settled as long as the
root is evaluable. -/
lemma Settled.withModels {models : Fin g.size → Model} {base : FeatureSpace}
    (hs : Settled checker valid g root base s) (hmodels : g.KeepsBelow root s.cache.ids models)
    (hevaluable : (g.withModels models).Evaluable checker valid s.space root) :
    Settled checker valid (g.withModels models) root base s := by
  refine ⟨⟨hs.evaluated.sound, ?_⟩, hs.canonical, hs.extends_base, ?_⟩
  · intro i hi handle hhandle
    rw [Graph.reaches_withModels] at hi
    rw [Graph.id_withModels] at hhandle
    have hright := hs.evaluated.cached i hi handle hhandle
    have hcached : g.id i ∈ s.cache.ids := Cache.mem_ids_iff.2 ⟨handle, hhandle⟩
    refine ⟨hright.wellFormed, ?_⟩
    intro later hlater x path hpath
    rw [Graph.reaches_withModels] at hpath
    rw [Graph.presentAt_withModels, Graph.valueAt_withModels rfl (hmodels i hi hcached) fun _ _ => rfl]
    exact hright.value later hlater x path hpath
  · intro i hi handle hhandle
    refine ⟨?_, hevaluable.of_reaches hi⟩
    rw [Graph.reaches_withModels] at hi
    rw [Graph.id_withModels] at hhandle
    exact (hs.cached i hi handle hhandle).1

/-- A session can evaluate the root once models were replaced that no cached diagram was computed from, if a fresh
session can, and with the same values. -/
lemma exists_evaluateNode_withModels (hf : Formula.ofText source = .ok f) (hs : Analyses checker places f valid s)
    (hpresence : ∀ c, g.Reaches root c → (g.node c).presence.Canonical s.space) (hg : g.WellFormed root)
    (hsettled : Settled checker valid g root s.space s) {models : Fin g.size → Model}
    (hmodels : g.KeepsBelow root s.cache.ids models)
    (hfresh : Fresh checker places source (g.withModels models) root s t)
    (heval : evaluateNode (g.withModels models) root t = (.ok handle, t')) :
    ∃ handle' after, evaluateNode (g.withModels models) root s = (.ok handle', after) ∧
      ∀ x, handle'.diagram.evaluate after.space x = handle.diagram.evaluate t'.space x := by
  have hg' := hg.withModels models
  have hpresence' : ∀ c, (g.withModels models).Reaches root c →
      ((g.withModels models).node c).presence.Canonical s.space := by
    intro c hc
    rw [Graph.reaches_withModels] at hc
    rw [Graph.node_withModels]
    exact hpresence c hc
  obtain ⟨valid', hrun⟩ := hfresh.run hf hs hpresence' hg' .refl heval
  have hevaluable := evaluable_of_concordant hs hrun.analyses hrun.concordant .refl hrun.grown hrun.evaluable
  have hsettled' := hsettled.withModels hmodels hevaluable
  obtain ⟨handle', after, heval'⟩ := exists_evaluateNode hs.wellFormed hg' hpresence' hevaluable hsettled'
  refine ⟨handle', after, heval', ?_⟩
  -- the session has declared more features by now, which changes nothing for the values
  have hgrown := (kept_extends s.space).evaluateNode (g := g.withModels models) root (.refl _)
  have hanalyses := Analyses.kept.evaluateNode (g := g.withModels models) root hs
  have hafter := hsettled'.evaluateNode hs.wellFormed hg' hpresence'
  rw [heval'] at hgrown hanalyses hafter
  have hright := hafter.evaluated.cached root .refl handle' (get?_of_evaluateNode heval')
  exact evaluate_of_concordant hanalyses hrun.analyses (hrun.concordant.mono hgrown) .refl hrun.grown hrun.usable
    hright hrun.right

end Session

/-! A row of nodes -/

namespace Graph

/-- Three nodes in a row, each the only child of the one before, with the expressions of the first and the last. -/
abbrev row (top bottom : String) : Graph :=
  ⟨3, #v[⟨"r", [1], .formula "a", .datum (.text top)⟩, ⟨"c", [2], .formula "a", .datum (.text "d")⟩,
    ⟨"d", [], .formula "a", .datum (.text bottom)⟩]⟩

variable {top bottom : String}

/-- Children have higher numbers than their parents. -/
lemma lt_of_child_row {i c : Fin 3} (h : c ∈ (row top bottom).children i) : i < c := by
  match i with
  | 0 =>
    obtain rfl := List.mem_singleton.1 h
    decide
  | 1 =>
    obtain rfl := List.mem_singleton.1 h
    decide
  | 2 => cases h

/-- Descendants have higher numbers than their ancestors. -/
lemma le_of_reaches_row {i j : Fin 3} (h : (row top bottom).Reaches i j) : i.val ≤ j.val := by
  induction h with
  | refl => exact Nat.le_refl _
  | tail _ hc ih => exact ih.trans (Nat.le_of_lt (lt_of_child_row hc))

/-- All nodes of the row have the same presence condition. -/
lemma presence_row (i : Fin 3) : ((row top bottom).node i).presence = .formula "a" := by
  match i with
  | 0 => rfl
  | 1 => rfl
  | 2 => rfl

/-- No two nodes of the row have the same id. -/
lemma id_row_injective : Function.Injective (row top bottom).id := by
  have hids : ∀ i j : Fin 3, #v["r", "c", "d"][i] = #v["r", "c", "d"][j] → i = j := by decide
  have hid : ∀ i : Fin 3, (row top bottom).id i = #v["r", "c", "d"][i] := by
    intro i
    match i with
    | 0 => rfl
    | 1 => rfl
    | 2 => rfl
  intro i j h
  rw [hid, hid] at h
  exact hids i j h

/-- The row is well-formed. -/
lemma wellFormed_row (top bottom : String) : (row top bottom).WellFormed (0 : Fin 3) := by
  refine ⟨?_, fun i j _ _ hid => id_row_injective hid, ?_⟩
  · intro i _ hcycle
    obtain ⟨c, hc, hback⟩ := Relation.TransGen.head'_iff.1 hcycle
    exact absurd (lt_of_child_row hc) (Nat.not_lt.2 (le_of_reaches_row hback))
  · intro i _
    rw [presence_row]
    trivial

section Values

variable {owner : Owner} {v w : Binary64} {present : Fin 3 → Except Error Binary64} {path : List (Fin 3)} {n : Nat}

/-- Where the feature model and the presence conditions are one or zero alike, they mask a number that is one
or zero as if they were one. -/
lemma product_mask (hv : v = .one ∨ v = .zero) (hw : w = .one ∨ w = .zero) :
    owner.product v (owner.product v w) = owner.product v w := by
  rcases hv with hv | hv
  · rcases hw with hw | hw
    · rw [hv, hw, owner.product_one, owner.product_one]
    · rw [hw, owner.product_zero, owner.product_zero]
  · rw [hv, owner.zero_product, owner.zero_product]

variable (hv : v = .one ∨ v = .zero) (hw : w = .one ∨ w = .zero) (hpresent : ∀ c, present c = .ok v)
  (hbottom : Expression.parse bottom = .ok (.int n)) (hn : owner.number (.int n) = .ok w)

include hbottom hn in
/-- The last node of the row has its number as reliability where it is valid. -/
lemma valueAt_row_bottom (hpath : (2 : Fin 3) ∉ path) :
    (row top bottom).valueAt Checker.plain owner v present path (2 : Fin 3) = .ok (owner.product v w) := by
  have hchecker : Checker.plain ((row top bottom).node (2 : Fin 3)).model = .ok bottom := rfl
  rw [valueAt_eq hpath hchecker hbottom, Expression.scalar, hn]
  rfl

include hv hw hpresent hbottom hn

/-- The middle node of the row has the reliability of the last one. -/
lemma valueAt_row_middle (hpath : (1 : Fin 3) ∉ path) (hpath' : (2 : Fin 3) ∉ path) :
    (row top bottom).valueAt Checker.plain owner v present path (1 : Fin 3) = .ok (owner.product v w) := by
  have hparse : Expression.parse "d" = .ok (.name "d") := by decide +kernel
  have hbelow : (2 : Fin 3) ∉ 1 :: path := by simpa using hpath'
  rw [valueAt_name (c := (2 : Fin 3)) hpath rfl hparse rfl, childAt, hpresent,
    valueAt_row_bottom hbottom hn hbelow]
  show Except.ok (owner.product v (owner.product v (owner.product v w))) = _
  rw [product_mask hv hw, product_mask hv hw]

/-- The first node of the row, if it names the middle one, has its reliability. -/
lemma valueAt_row_top (htop : Expression.parse top = .ok (.name "c")) :
    (row top bottom).valueAt Checker.plain owner v present [] (0 : Fin 3) = .ok (owner.product v w) := by
  rw [valueAt_name (c := (1 : Fin 3)) List.not_mem_nil rfl htop rfl, childAt, hpresent,
    valueAt_row_middle hv hw hpresent hbottom hn (by simp) (by simp)]
  show Except.ok (owner.product v (owner.product v (owner.product v w))) = _
  rw [product_mask hv hw, product_mask hv hw]

end Values

end Graph

namespace Session

section Row

variable {places : Option Nat} {valid : Diagram} {s : Session} {top bottom : String} {n : Nat} {w : Binary64}

/-- One is read as an integer. -/
lemma parse_one : Expression.parse "1" = .ok (.int 1) := by decide +kernel

/-- The nodes of the row are present with one feature. -/
lemma presentAt_row (later : FeatureSpace) (x : String → Bool) (c : Fin 3) :
    (Graph.row top bottom).presentAt later x c = .ok (if x "a" then .one else .zero) := by
  rw [Graph.presentAt, Graph.presence_row, Presence.valueAt, ofText_feature]
  rfl

/-- The presence conditions of the row are canonical. -/
lemma canonical_row (space : FeatureSpace) (c : Fin 3) :
    ((Graph.row top bottom).node c).presence.Canonical space := by
  rw [Graph.presence_row]
  trivial

variable (hs : Analyses Checker.plain places (.feature "a") valid s) (hw : w = .one ∨ w = .zero)
  (hbottom : Expression.parse bottom = .ok (.int n)) (hn : ∀ owner : Owner, owner.number (.int n) = .ok w)

include hs hw hbottom hn

/-- The first two nodes of a row have the same reliability, the number of the third where the feature is present. -/
lemma valueAt_row {later : FeatureSpace} (hlater : s.space.Extends later) (x : String → Bool) :
    (∀ path, (1 : Fin 3) ∉ path → (2 : Fin 3) ∉ path →
      (Graph.row top bottom).valueAt Checker.plain valid.owner (valid.evaluate later x)
          ((Graph.row top bottom).presentAt later x) path (1 : Fin 3) =
        .ok (valid.owner.product (valid.evaluate later x) w)) ∧
    (Expression.parse top = .ok (.name "c") →
      (Graph.row top bottom).valueAt Checker.plain valid.owner (valid.evaluate later x)
          ((Graph.row top bottom).presentAt later x) [] (0 : Fin 3) =
        .ok (valid.owner.product (valid.evaluate later x) w)) := by
  have hvalid : valid.evaluate later x = if x "a" then .one else .zero := hs.holds later hlater x
  have hmask : valid.evaluate later x = .one ∨ valid.evaluate later x = .zero := by
    rw [hvalid]
    split
    · exact .inl rfl
    · exact .inr rfl
  have hpresent (c : Fin 3) :
      (Graph.row top bottom).presentAt later x c = .ok (valid.evaluate later x) := by
    rw [hvalid]
    exact presentAt_row later x c
  exact ⟨fun path => Graph.valueAt_row_middle hmask hw hpresent hbottom (hn _),
    Graph.valueAt_row_top hmask hw hpresent hbottom (hn _)⟩

/-- The middle node of the row is evaluable. -/
lemma evaluable_row_middle : (Graph.row top bottom).Evaluable Checker.plain valid s.space (1 : Fin 3) := by
  refine ⟨?_, ?_⟩
  · intro c _
    rw [Graph.presence_row]
    exact ⟨_, ofText_feature⟩
  · intro j hj later hlater x
    match j with
    | 0 => exact absurd (Graph.le_of_reaches_row hj) (Nat.not_succ_le_zero 0)
    | 1 => exact ⟨_, (valueAt_row hs hw hbottom hn hlater x).1 [] List.not_mem_nil List.not_mem_nil⟩
    | 2 => exact ⟨_, Graph.valueAt_row_bottom hbottom (hn _) List.not_mem_nil⟩

/-- The first node of the row is evaluable if it names the middle one. -/
lemma evaluable_row_top (htop : Expression.parse top = .ok (.name "c")) :
    (Graph.row top bottom).Evaluable Checker.plain valid s.space (0 : Fin 3) := by
  refine .of_children ?_ ?_ ?_
  · intro c _
    rw [Graph.presence_row]
    exact ⟨_, ofText_feature⟩
  · intro c hc
    obtain rfl := List.mem_singleton.1 hc
    exact evaluable_row_middle hs hw hbottom hn
  · exact fun later hlater x => ⟨_, (valueAt_row hs hw hbottom hn hlater x).2 htop⟩

/-- The right diagram of a node alone that has the number of a row is right for the second node of the row. -/
lemma right_row_middle {d : Diagram}
    (hd : Right Checker.plain valid (.single "c" (.formula "a") (.datum (.text bottom))) s.space (0 : Fin 1) d) :
    Right Checker.plain valid (Graph.row top bottom) s.space (1 : Fin 3) d := by
  refine ⟨hd.wellFormed, ?_⟩
  intro later hlater x path hpath
  have hchild : (Graph.row top bottom).Reaches (1 : Fin 3) (2 : Fin 3) := .single (List.mem_singleton_self _)
  rw [(valueAt_row hs hw hbottom hn hlater x).1 path (fun hmem => hpath _ hmem .refl)
    (fun hmem => hpath _ hmem hchild)]
  have hvalue := hd.value later hlater x [] (by simp)
  have hchecker : Checker.plain ((Graph.single "c" (.formula "a") (.datum (.text bottom))).node (0 : Fin 1)).model =
    .ok bottom := rfl
  rw [Graph.valueAt_eq List.not_mem_nil hchecker hbottom, Expression.scalar, hn] at hvalue
  exact hvalue

/-- A row whose first node names the second is evaluated where everything cached is settled, to its number where the
feature is present. -/
lemma exists_row (hsettled : Settled Checker.plain valid (Graph.row "c" bottom) (0 : Fin 3) s.space s) :
    ∃ handle after, evaluateNode (Graph.row "c" bottom) (0 : Fin 3) s = (.ok handle, after) ∧
      ∀ x : String → Bool, x "a" = true → handle.diagram.evaluate after.space x = w := by
  have htop : Expression.parse "c" = .ok (.name "c") := by decide +kernel
  have hpresence : ∀ c, (Graph.row "c" bottom).Reaches (0 : Fin 3) c →
      ((Graph.row "c" bottom).node c).presence.Canonical s.space := fun c _ => canonical_row s.space c
  obtain ⟨handle, after, heval⟩ := exists_evaluateNode hs.wellFormed (Graph.wellFormed_row "c" bottom) hpresence
    (evaluable_row_top hs hw hbottom hn htop) hsettled
  refine ⟨handle, after, heval, fun x hx => ?_⟩
  have hgrown := (kept_extends s.space).evaluateNode (g := Graph.row "c" bottom) (0 : Fin 3) (.refl _)
  have hafter := hsettled.evaluateNode hs.wellFormed (Graph.wellFormed_row "c" bottom) hpresence
  rw [heval] at hgrown hafter
  have hright := hafter.evaluated.cached (0 : Fin 3) .refl handle (get?_of_evaluateNode heval)
  have hvalue := hright.value after.space (.refl _) x [] (by simp)
  rw [(valueAt_row hs hw hbottom hn hgrown x).2 htop] at hvalue
  have hvalid : valid.evaluate after.space x = .one := by
    rw [hs.holds after.space hgrown x]
    exact if_pos hx
  rw [← Except.ok.inj hvalue, hvalid]
  rcases hw with hw | hw
  · rw [hw, Owner.product_one]
  · rw [hw, Owner.product_zero]

omit hs in
/-- Every session can be compared with a fresh one in which such a row is evaluated. -/
lemma exists_fresh_row : ∃ t handle t', Fresh Checker.plain (some 12) "a" (Graph.row "c" bottom) (0 : Fin 3) s t ∧
    evaluateNode (Graph.row "c" bottom) (0 : Fin 3) t = (.ok handle, t') ∧
    ∀ x : String → Bool, x "a" = true → handle.diagram.evaluate t'.space x = w := by
  obtain ⟨t, hstart⟩ := exists_start .standard 1 ofText_feature Checker.plain none
  obtain ⟨f, hf, ht⟩ := Analyses.of_start hstart
  obtain rfl := Except.ok.inj (ofText_feature.symm.trans hf)
  obtain ⟨_, _, hcache, _⟩ := started hstart
  obtain ⟨handle, t', heval, hvalue⟩ := exists_row ht hw hbottom hn (.of_empty ht (by rw [hcache]; rfl))
  refine ⟨t, handle, t', .started hstart rfl fun c _ given hgiven => ?_, heval, hvalue⟩
  rw [Graph.presence_row] at hgiven
  cases hgiven

omit hs hw hbottom hn

/-- A session that evaluated the second node of a row alone, when this had no child and the number of the third, and
that fails to evaluate the first node, whose expression cannot be parsed. -/
structure RowFailed (s₀ s after : Session) (e : Error) (valid : Diagram) : Prop where
  started : start .standard 0 "a" Checker.plain none = .ok s₀
  used : s = s₀.after [.evaluateNode (.single "c" (.formula "a") (.datum (.text "1"))) (0 : Fin 1)]
  analyses : Analyses Checker.plain (some 12) (.feature "a") valid s
  cached : ∀ id, id ∈ s.cache.ids ↔ id = "c"
  correct : ∀ i : Fin 3, ∀ handle, s.cache.get? ((Graph.row "c +" "1").id i) = some handle →
    Correct Checker.plain (some 12) "a" (Graph.row "c +" "1") (0 : Fin 3) s i handle.diagram
  failed : evaluateNode (Graph.row "c +" "1") (0 : Fin 3) s = (.error e, after)

/-- A node with a number alone is evaluated in a fresh session. -/
lemma exists_single : ∃ s₀ s handle, start .standard 0 "a" Checker.plain none = .ok s₀ ∧ s₀.cache.entries = [] ∧
    evaluateNode (.single "c" (.formula "a") (.datum (.text "1"))) (0 : Fin 1) s₀ = (.ok handle, s) := by
  have hone : Diagram.numberOf? false (.int ((1 : Nat) : Int)) = some (.ok .one) := by decide +kernel
  obtain ⟨s₀, hstart⟩ := exists_start .standard 0 ofText_feature Checker.plain none
  obtain ⟨_, hchecker, hcache, _⟩ := started hstart
  have hempty : s₀.cache.entries = [] := by
    rw [hcache]
    rfl
  obtain ⟨raw, hsolve⟩ : ∃ raw, (Expression.int 1).solve s₀.space.owner [] = .ok raw := by
    rw [Expression.solve, Operand.toDiagram, hone]
    exact ⟨_, rfl⟩
  obtain ⟨handle, s, heval⟩ := evaluateNode_of_leaf
    (g := .single "c" (.formula "a") (.datum (.text "1"))) (i := (0 : Fin 1)) (s := s₀) rfl
    (by rw [Cache.get?, hempty, List.lookup_nil]) (by rw [hchecker]; rfl) parse_one hsolve
  exact ⟨s₀, s, handle, hstart, hempty, heval⟩

/-- If the second node of a row is cached, it does not matter what the third is. -/
lemma evaluateNode_row_bottom (top bottom bottom' : String) (hcached : "c" ∈ s.cache.ids) :
    evaluateNode (Graph.row top bottom) (0 : Fin 3) s = evaluateNode (Graph.row top bottom') (0 : Fin 3) s := by
  show evaluateNode ((Graph.row top bottom').withModels fun i => ((Graph.row top bottom).node i).model)
    (0 : Fin 3) s = _
  apply evaluateNode_withModels
  intro j hj hnew
  have hsecond : (Graph.row top bottom').id (1 : Fin 3) ∈ s.cache.ids := hcached
  rcases hj.cases_head with rfl | ⟨c, ⟨_, hc⟩, hrest⟩
  · rfl
  · obtain rfl := List.mem_singleton.1 hc
    rcases hrest.cases_head with rfl | ⟨_, ⟨hopen, _⟩, _⟩
    · exact absurd hsecond hnew
    · exact absurd hsecond hopen

/-- A row cannot be evaluated if the expression of its first node cannot be parsed. -/
lemma exists_error_row (hs : Analyses Checker.plain places (.feature "a") valid s)
    (hsettled : Settled Checker.plain valid (Graph.row "c +" bottom) (0 : Fin 3) s.space s) :
    ∃ e after, evaluateNode (Graph.row "c +" bottom) (0 : Fin 3) s = (.error e, after) := by
  have hafter := hsettled.evaluateNode hs.wellFormed (Graph.wellFormed_row "c +" bottom)
    fun c _ => canonical_row s.space c
  cases hout : evaluateNode (Graph.row "c +" bottom) (0 : Fin 3) s with
  | mk result after =>
    cases result with
    | error e => exact ⟨e, after, rfl⟩
    | ok handle =>
      -- the first node would have a reliability, and so an expression
      rw [hout] at hafter
      have hvalue := (hafter.evaluated.cached (0 : Fin 3) .refl handle (get?_of_evaluateNode hout)).value
        after.space (.refl _) (fun _ => false) [] (by simp)
      obtain ⟨text, expression, hchecker, hparse⟩ := Graph.exists_expression hvalue
      obtain rfl : "c +" = text := Except.ok.inj hchecker
      have hnone : (Expression.parse "c +").isOk = false := by decide +kernel
      rw [hparse] at hnone
      cases hnone

/-- A session that evaluated the second node of a row alone, when this had no child and the number of the third. -/
structure SingleUsed (s₀ s : Session) (valid : Diagram) : Prop where
  started : start .standard 0 "a" Checker.plain none = .ok s₀
  used : s = s₀.after [.evaluateNode (.single "c" (.formula "a") (.datum (.text "1"))) (0 : Fin 1)]
  analyses : Analyses Checker.plain (some 12) (.feature "a") valid s
  cached : ∀ id, id ∈ s.cache.ids ↔ id = "c"
  correct : ∀ top, ∀ i : Fin 3, ∀ handle, s.cache.get? ((Graph.row top "1").id i) = some handle →
    Correct Checker.plain (some 12) "a" (Graph.row top "1") (0 : Fin 3) s i handle.diagram

/-- The diagram of the second node alone is correct in a row with the same number, whatever the first node is. -/
lemma exists_singleUsed : ∃ s₀ s valid, SingleUsed s₀ s valid := by
  obtain ⟨s₀, s, handle, hstart, hempty, heval⟩ := exists_single
  have hused : s = s₀.after [.evaluateNode (.single "c" (.formula "a") (.datum (.text "1"))) (0 : Fin 1)] := by
    show s = (Call.respond s₀ (.evaluateNode (.single "c" (.formula "a") (.datum (.text "1"))) (0 : Fin 1))).2
    simp only [Call.respond, heval]
  obtain ⟨f, hf, hs₀⟩ := Analyses.of_start hstart
  obtain rfl := Except.ok.inj (ofText_feature.symm.trans hf)
  have hs : Analyses Checker.plain (some 12) (.feature "a") s₀.featureModel.diagram s := by
    rw [hused]
    exact hs₀.after _
  have hsingle : (Graph.single "c" (.formula "a") (.datum (.text "1"))).WellFormed (0 : Fin 1) :=
    .single (by trivial) (0 : Fin 1)
  have hpresence : ∀ i, (Graph.single "c" (.formula "a") (.datum (.text "1"))).Reaches (0 : Fin 1) i →
      ((Graph.single "c" (.formula "a") (.datum (.text "1"))).node i).presence.Canonical s₀.space := by
    intro i _
    rw [Graph.node_single]
    trivial
  have hsettled := (Settled.of_empty hs₀ hempty).evaluateNode hs₀.wellFormed hsingle hpresence
  have hadded := added_evaluateNode (Graph.single "c" (.formula "a") (.datum (.text "1"))) (0 : Fin 1) s₀
  rw [heval] at hsettled hadded
  have hget := get?_of_evaluateNode heval
  have hcached : ∀ id, id ∈ s.cache.ids ↔ id = "c" := by
    intro id
    constructor
    · intro hid
      rw [hadded.ids, Cache.ids, hempty] at hid
      obtain ⟨i, _, rfl⟩ := hadded.reached id hid
      rw [Graph.id, Graph.node_single]
    · rintro rfl
      exact Cache.mem_ids_iff.2 ⟨handle, hget⟩
  refine ⟨s₀, s, _, hstart, hused, hs, hcached, ?_⟩
  intro top i handle' hhandle
  have hid : (Graph.row top "1").id i = "c" := (hcached _).1 (Cache.mem_ids_iff.2 ⟨handle', hhandle⟩)
  obtain rfl : i = 1 := Graph.id_row_injective hid
  obtain rfl := Option.some.inj (hget.symm.trans hhandle)
  -- what is right for the node alone is right for the second node of the row
  have hone : Binary64.one = .one ∨ Binary64.one = .zero := .inl rfl
  have hright : Right Checker.plain _ (Graph.row top "1") s.space (1 : Fin 3) handle.diagram :=
    right_row_middle hs hone parse_one Owner.number_one (hsettled.evaluated.cached (0 : Fin 1) .refl handle hget)
  exact correct_of_right ofText_feature hs (fun c _ => canonical_row s.space c) (Graph.wellFormed_row top "1")
    (.single (List.mem_singleton_self _)) (hsettled.cached (0 : Fin 1) .refl handle hget).1 hright
    (evaluable_row_middle hs hone parse_one Owner.number_one)

/-- What such a session has cached is settled for a row with the same number. -/
lemma SingleUsed.settled {s₀ : Session} (h : SingleUsed s₀ s valid) (top : String) :
    Settled Checker.plain valid (Graph.row top "1") (0 : Fin 3) s.space s :=
  settled_of_correct ofText_feature h.analyses (fun c _ => canonical_row s.space c) (Graph.wellFormed_row top "1")
    fun i _ => h.correct top i

/-- A session can be used to fail at the first node of the row. -/
lemma exists_rowFailed : ∃ s₀ s after e valid, RowFailed s₀ s after e valid := by
  obtain ⟨s₀, s, valid, h⟩ := exists_singleUsed
  obtain ⟨e, after, hfail⟩ := exists_error_row h.analyses (h.settled "c +")
  exact ⟨s₀, s, after, e, valid, h.started, h.used, h.analyses, h.cached, h.correct "c +", hfail⟩

variable {s₀ after : Session} {e : Error}

/-- After the failure only the second node is cached, as before. -/
lemma RowFailed.mem_ids (h : RowFailed s₀ s after e valid) (id : String) : id ∈ after.cache.ids ↔ id = "c" := by
  have hnew : (Graph.row "c +" "1").id (0 : Fin 3) ∉ s.cache.ids := by
    rw [h.cached]
    decide
  have hidle := idle_of_children hnew (fun c hc => ?_) h.failed
  · rw [hidle.ids]
    exact h.cached id
  · obtain rfl := List.mem_singleton.1 hc
    exact (h.cached _).2 rfl

/-- After the failure no node of the row but the middle one is cached. -/
lemma RowFailed.eq_of_cached (h : RowFailed s₀ s after e valid) {i : Fin 3}
    (hi : (Graph.row "c +" "1").id i ∈ after.cache.ids) : i = 1 :=
  Graph.id_row_injective ((h.mem_ids _).1 hi)

/-- The expression of the first node can be replaced, as it is not cached. -/
lemma RowFailed.keepsBelow (h : RowFailed s₀ s after e valid) :
    (Graph.row "c +" "1").KeepsBelow (0 : Fin 3) after.cache.ids fun i => ((Graph.row "c" "1").node i).model := by
  intro j _ hj i hi
  obtain rfl := h.eq_of_cached hj
  match i with
  | 0 => exact absurd (Graph.le_of_reaches_row hi) (Nat.not_succ_le_zero 0)
  | 1 => rfl
  | 2 => rfl

end Row

/-! Going on after a failure -/

variable {checker : Checker} {source : String} {g : Graph} {root : Fin g.size} {s : Session}

/-- What a failed evaluation leaves, in a session that was used in any way and whose cache holds correct
diagrams of some nodes. The cache is the old one with one more entry for each id that was evaluated. Every
cached diagram is correct: it has the values that any fresh evaluation of its node gives. An id that was
reached and not completed is not cached. Evaluating the root once more fails with the same error and evaluates
nothing. If models are then replaced, of nodes that are not cached and not below one that is, such that a
fresh session can evaluate the root, this session can too, with the same values at every product. -/
theorem resumes_of_error {settings : Settings} {serial : Nat} {builder : Option Builder} {s₀ : Session}
    (hstart : start settings serial source checker builder = .ok s₀) (calls : List Call) (cache : Cache)
    (hs : s = { s₀.after calls with cache }) (hg : g.WellFormed root)
    (hpresence : ∀ c, g.Reaches root c → (g.node c).presence.Canonical s.space)
    (hcached : ∀ i, g.Reaches root i → ∀ handle, s.cache.get? (g.id i) = some handle →
      Correct checker settings.places source g root s i handle.diagram)
    {e : Error} {after : Session} (hfail : evaluateNode g root s = (.error e, after)) :
    ((∃ new, after.cache.entries = s.cache.entries ++ new ∧ new.map Prod.fst = after.trace.evaluated) ∧
      after.trace.evaluated.Nodup ∧
      ∀ id ∈ after.trace.evaluated, id ∉ s.cache.ids ∧ ∃ i, g.Reaches root i ∧ g.id i = id) ∧
    (∀ i, g.Reaches root i → ∀ handle, after.cache.get? (g.id i) = some handle →
      Correct checker settings.places source g root after i handle.diagram ∧
        ∀ t handle' t', Fresh checker settings.places source g root after t →
          evaluateNode g i t = (.ok handle', t') →
          ∀ x, handle.diagram.evaluate after.space x = handle'.diagram.evaluate t'.space x) ∧
    (∃ mid, { s with trace := .empty }.look (g.id root) = (none, mid) ∧
      ∀ w, Relation.ReflTransGen Walk.Step (.start root mid) w →
        ∀ id ∈ w.path, id ∈ after.cache.ids → id ∈ after.trace.evaluated) ∧
    (∃ again, evaluateNode g root after = (.error e, again) ∧ again.trace.evaluated = [] ∧
      again.cache.entries = after.cache.entries) ∧
    ∀ models, g.KeepsBelow root after.cache.ids models →
      ∀ t handle t', Fresh checker settings.places source (g.withModels models) root after t →
        evaluateNode (g.withModels models) root t = (.ok handle, t') →
        ∃ handle' resumed, evaluateNode (g.withModels models) root after = (.ok handle', resumed) ∧
          ∀ x, handle'.diagram.evaluate resumed.space x = handle.diagram.evaluate t'.space x := by
  obtain ⟨f, hf, hstarted⟩ := Analyses.of_start hstart
  have hanalyses := (hstarted.after calls).withCache cache
  rw [← hs] at hanalyses
  have hsettled := settled_of_correct hf hanalyses hpresence hg hcached
  have hspace := (kept_extends s.space).evaluateNode root (.refl _)
  have hadded := added_evaluateNode g root s
  have hanalyses' := Analyses.kept.evaluateNode root hanalyses
  have hafter := hsettled.evaluateNode hanalyses.wellFormed hg hpresence
  rw [hfail] at hspace hadded hanalyses' hafter
  have hpresence' : ∀ c, g.Reaches root c → (g.node c).presence.Canonical after.space :=
    fun c hc => (hpresence c hc).mono hspace
  refine ⟨⟨hadded.entries, hadded.nodup, fun id hid => ⟨hadded.fresh id hid, hadded.reached id hid⟩⟩, ?_, ?_,
    evaluateNode_again hfail, ?_⟩
  · intro i hi handle hhandle
    have hright := hafter.evaluated.cached i hi handle hhandle
    obtain ⟨hcanonical, hevaluable⟩ := hafter.cached i hi handle hhandle
    refine ⟨correct_of_right hf hanalyses' hpresence' hg hi hcanonical hright hevaluable, ?_⟩
    exact fun t handle' t' hfresh heval => evaluate_eq_fresh hf hanalyses' hpresence' hg hi hright hfresh heval
  · -- the root is not cached, as its evaluation failed
    obtain ⟨mid, hlook⟩ : ∃ mid, { s with trace := .empty }.look (g.id root) = (none, mid) := by
      cases answered_of_evaluateNode hfail with
      | failed hlook => exact ⟨_, hlook⟩
      | missing hlook => exact ⟨_, hlook⟩
    refine ⟨mid, hlook, fun w hw id hid hmem => ?_⟩
    have hcompleted := evaluated_of_mem_path hlook hw hid
    rw [hfail] at hcompleted
    exact hcompleted hmem
  · intro models hmodels t handle t' hfresh heval
    exact exists_evaluateNode_withModels hf hanalyses' hpresence' hg hafter.rebase hmodels hfresh heval

/-- A session whose cache holds a leaf that has been given a child since fails to evaluate a node above it,
fails once more, and goes on when the expression that failed is replaced. -/
theorem resumes_of_error_row : ∃ s₀ s after e valid, RowFailed s₀ s after e valid ∧
    (∃ again, evaluateNode (Graph.row "c +" "1") (0 : Fin 3) after = (.error e, again) ∧
      again.trace.evaluated = []) ∧
    ∃ handle resumed, evaluateNode (Graph.row "c" "1") (0 : Fin 3) after = (.ok handle, resumed) ∧
      ∀ x : String → Bool, x "a" = true → handle.diagram.evaluate resumed.space x = .one := by
  obtain ⟨s₀, s, after, e, valid, h⟩ := exists_rowFailed
  have hs : s = { s₀.after [.evaluateNode (.single "c" (.formula "a") (.datum (.text "1"))) (0 : Fin 1)] with
      cache := s.cache } := by rw [h.used]
  obtain ⟨_, _, _, ⟨again, hagain, hevaluated, _⟩, hresumes⟩ := resumes_of_error h.started _ s.cache hs
    (Graph.wellFormed_row "c +" "1") (fun c _ => canonical_row s.space c) (fun i _ => h.correct i) h.failed
  obtain ⟨t, handle, t', hfresh, heval, hvalue⟩ :=
    exists_fresh_row (s := after) (.inl rfl) parse_one Owner.number_one
  obtain ⟨handle', resumed, hresumed, hsame⟩ := hresumes _ h.keepsBelow t handle t' hfresh heval
  refine ⟨s₀, s, after, e, valid, h, ⟨again, hagain, hevaluated⟩, handle', resumed, hresumed, fun x hx => ?_⟩
  rw [hsame, hvalue x hx]

/-- It is not enough to replace only models of nodes that are not cached. The diagram of a cached node is not
computed again, so it stays as it was when a model below it is replaced: the session goes on to a reliability
of one where a fresh session computes zero. -/
theorem stale_below_cached : (Graph.row "c +" "1").WellFormed (0 : Fin 3) ∧
    ∃ s₀ s after e valid, RowFailed s₀ s after e valid ∧
      (∀ i : Fin 3, (Graph.row "c +" "1").id i ∈ after.cache.ids →
        ((Graph.row "c" "0").node i).model = ((Graph.row "c +" "1").node i).model) ∧
      ∃ t t' resumed handle handle', ∃ x : String → Bool,
        Fresh Checker.plain (some 12) "a" (Graph.row "c" "0") (0 : Fin 3) after t ∧
        evaluateNode (Graph.row "c" "0") (0 : Fin 3) t = (.ok handle, t') ∧
        evaluateNode (Graph.row "c" "0") (0 : Fin 3) after = (.ok handle', resumed) ∧
        handle'.diagram.evaluate resumed.space x ≠ handle.diagram.evaluate t'.space x := by
  obtain ⟨s₀, s, after, e, valid, h⟩ := exists_rowFailed
  have hs := h.analyses
  have hone : Binary64.one = .one ∨ Binary64.one = .zero := .inl rfl
  have hpresence : ∀ c, (Graph.row "c +" "1").Reaches (0 : Fin 3) c →
      ((Graph.row "c +" "1").node c).presence.Canonical s.space := fun c _ => canonical_row s.space c
  -- with the number of the third node unchanged, the session goes on to a value of one
  have hafter := Analyses.kept.evaluateNode (g := Graph.row "c +" "1") (0 : Fin 3) hs
  have hsettled := (settled_of_correct ofText_feature hs hpresence (Graph.wellFormed_row "c +" "1")
    fun i _ => h.correct i).evaluateNode hs.wellFormed (Graph.wellFormed_row "c +" "1") hpresence
  rw [h.failed] at hafter hsettled
  have hkept : Settled Checker.plain valid (Graph.row "c" "1") (0 : Fin 3) after.space after :=
    hsettled.rebase.withModels h.keepsBelow
      (evaluable_row_top hafter hone parse_one Owner.number_one (by decide +kernel))
  obtain ⟨handle', resumed, hresumed, hvalue'⟩ := exists_row hafter hone parse_one Owner.number_one hkept
  -- a new number for the third node makes no difference to this, as the second is cached
  have hsame : evaluateNode (Graph.row "c" "0") (0 : Fin 3) after =
      evaluateNode (Graph.row "c" "1") (0 : Fin 3) after :=
    evaluateNode_row_bottom "c" "0" "1" ((h.mem_ids _).2 rfl)
  -- a fresh session computes zero
  have hzero : Expression.parse "0" = .ok (.int 0) := by decide +kernel
  obtain ⟨t, handle, t', hfresh, heval, hvalue⟩ :=
    exists_fresh_row (s := after) (.inr rfl) hzero Owner.number_zero
  refine ⟨Graph.wellFormed_row "c +" "1", s₀, s, after, e, valid, h, ?_, t, t', resumed, handle, handle',
    fun _ => true, hfresh, heval, hsame.trans hresumed, ?_⟩
  · intro i hi
    obtain rfl := h.eq_of_cached hi
    rfl
  · rw [hvalue' (fun _ => true) rfl, hvalue (fun _ => true) rfl]
    exact Binary64.one_ne_zero

end Session

end ProductLine
