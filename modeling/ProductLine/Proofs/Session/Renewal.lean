import Mathlib.Tactic.Common
import ProductLine.Proofs.Diagram.Matching
import ProductLine.Proofs.Session.Canonical

/-!
# Sessions that were reset

Resetting a session forgets the cached diagrams only. What stays of earlier calls, those that failed included,
are the features they declared and the diagrams of the presence conditions they encoded. Neither shows: a
session keeps for a text a diagram that encodes it (`Session.Faithful.after`), and sessions that match, that
is whose diagrams do, go on to do the same with the same presence conditions, step by step
(`Session.Matches.visit`). So an evaluation after a reset does what it does in a session that was just started
(`Session.evaluate_reset`). A session that is closed instead evaluates nothing any more
(`Session.evaluateOnce_spec`).
-/

namespace ProductLine

/-- Whether a diagram of a space has the value one where the formula of a text holds, and zero elsewhere. -/
def Diagram.Encodes (space : FeatureSpace) (text : String) (d : Diagram) : Prop :=
  ∃ f r, Formula.ofText text = .ok f ∧ d = .ofRegion space.owner r ∧ r.Within space.features.length ∧
    ∀ x, r.holds (space.product x) = f.holds x

namespace Diagram.Encodes

variable {s t : FeatureSpace} {text : String} {d d' : Diagram}

/-- What a text is encoded as encodes it. -/
lemma of_encode {space after : FeatureSpace} {r : Region} (h : space.encode text = (.ok r, after)) :
    Encodes after text (.ofRegion after.owner r) := by
  obtain ⟨f, hf, hholds⟩ := FeatureSpace.encode_holds h
  exact ⟨f, r, hf, rfl, FeatureSpace.within_of_encode h, hholds after (.refl after)⟩

/-- What encodes a text does so when further features are declared. -/
lemma mono (h : Encodes s text d) (hs : s.Extends t) : Encodes t text d := by
  obtain ⟨f, r, hf, rfl, hwithin, hholds⟩ := h
  refine ⟨f, r, hf, by rw [hs.owner], hwithin.mono hs.length_le, fun x => ?_⟩
  rw [← hholds x]
  exact hwithin _ _ fun level hlevel => hs.product x hlevel

end Diagram.Encodes

/-- Diagrams that encode one text match. -/
lemma Diagram.matches_of_encodes {s t : FeatureSpace} {text : String} {d d' : Diagram} (hspace : s.Comparable t)
    (h : d.Encodes s text) (h' : d'.Encodes t text) : Diagram.Matches s t d d' := by
  obtain ⟨f, r, hf, rfl, hwithin, hholds⟩ := h
  obtain ⟨f', r', hf', rfl, hwithin', hholds'⟩ := h'
  cases hf.symm.trans hf'
  exact matches_ofRegion hspace ⟨hwithin, hwithin', fun x => (hholds x).trans (hholds' x).symm⟩

/-- Whether the diagrams of two objects match. -/
def Handle.Matches (s t : FeatureSpace) (a b : Handle) : Prop := Diagram.Matches s t a.diagram b.diagram

namespace Session

/-- Whether the feature model and the presence conditions of a session are kept as diagrams that encode them. -/
structure Faithful (checker : Checker) (places : Option Nat) (source : String) (s : Session) : Prop where
  checker : s.checker = checker
  places : s.space.owner.places = places
  nodup : s.space.features.Nodup
  featureModel : s.featureModel.diagram.Encodes s.space source
  presences : ∀ e ∈ s.presences, e.2.diagram.Encodes s.space e.1

namespace Faithful

variable {checker : Checker} {places : Option Nat} {source text : String} {s : Session}

/-- Asking for a presence condition keeps a session faithful. -/
lemma presence {α : Type} (hs : s.Faithful checker places source) (node : Node α) :
    (s.presence node).2.Faithful checker places source := by
  rw [Session.presence]
  split
  · exact hs
  · rename_i text _
    split
    · exact hs
    · have hspace := s.space.encode_extends text
      have hnodup := FeatureSpace.nodup_encode hs.nodup text
      generalize hout : s.encodePresence node.id text = out
      obtain ⟨result, after⟩ := out
      have hold {after : FeatureSpace} (hspace : s.space.Extends after) :
          ∀ e ∈ s.presences, e.2.diagram.Encodes after e.1 := fun e he => (hs.presences e he).mono hspace
      cases encoded_of_encodePresence hout with
      | refused hencode =>
        rw [hencode] at hspace hnodup
        exact ⟨hs.checker, by rw [hspace.owner, hs.places], hnodup, hs.featureModel.mono hspace, hold hspace⟩
      | @kept r space handle warnings hencode hdiagram =>
        rw [hencode] at hspace hnodup
        refine ⟨hs.checker, by rw [hspace.owner, hs.places], hnodup, hs.featureModel.mono hspace, ?_⟩
        intro e he
        rcases List.mem_append.1 he with he | he
        · exact hold hspace e he
        · cases List.mem_singleton.1 he
          rw [hdiagram]
          exact Diagram.Encodes.of_encode hencode

/-- Every small step of an evaluation keeps a session faithful. -/
lemma kept : Kept (Faithful checker places source) where
  untraced _ hs := ⟨hs.checker, hs.places, hs.nodup, hs.featureModel, hs.presences⟩
  look s id hs := by
    obtain ⟨cache, hits, hlook, _⟩ := s.look_snd id
    rw [hlook]
    exact ⟨hs.checker, hs.places, hs.nodup, hs.featureModel, hs.presences⟩
  ask _ _ hs := ⟨hs.checker, hs.places, hs.nodup, hs.featureModel, hs.presences⟩
  presence _ node hs := hs.presence node
  make _ _ hs := ⟨hs.checker, hs.places, hs.nodup, hs.featureModel, hs.presences⟩
  record hs _ := ⟨hs.checker, hs.places, hs.nodup, hs.featureModel, hs.presences⟩

/-- A session that was started is faithful to its feature model. -/
lemma of_start {settings : Settings} {serial : Nat} {builder : Option Builder}
    (h : start settings serial source checker builder = .ok s) : s.Faithful checker settings.places source := by
  obtain ⟨⟨r, hencode, hmodel⟩, hchecker, _, hpresences⟩ := started h
  have howner := ((settings.space serial).encode_extends source).owner
  rw [hencode] at howner
  refine ⟨hchecker, by rw [howner]; rfl, (Canonical.of_start h).nodup, ?_, by simp [hpresences]⟩
  rw [hmodel]
  exact Diagram.Encodes.of_encode hencode

/-- Forgetting everything keeps a session faithful. -/
lemma clear (hs : s.Faithful checker places source) : s.clear.Faithful checker places source :=
  ⟨hs.checker, hs.places, hs.nodup, hs.featureModel, by simp [Session.clear]⟩

/-- However a faithful session is used, it stays faithful. -/
theorem after (hs : s.Faithful checker places source) (calls : List Call) :
    (s.after calls).Faithful checker places source := by
  refine kept.after ?_ ?_ ?_ ?_ calls hs
  · intro s names hs
    have hspace := s.space.declare_extends_self names
    exact ⟨hs.checker, hs.places, FeatureSpace.nodup_declare hs.nodup names, hs.featureModel.mono hspace,
      fun e he => (hs.presences e he).mono hspace⟩
  · exact fun s hs => ⟨hs.checker, hs.places, hs.nodup, hs.featureModel, hs.presences⟩
  · exact fun s hs => hs.clear
  · intro s hs
    rw [close]
    split
    · exact hs
    · exact ⟨hs.clear.checker, hs.clear.places, hs.clear.nodup, hs.clear.featureModel, hs.clear.presences⟩

/-- The diagram that a faithful session gives for a formula encodes it. -/
lemma encodes_of_presence {α : Type} {node : Node α} (hs : s.Faithful checker places source)
    (hnode : node.presence = .formula text) {handle : Handle} {after : Session}
    (h : s.presence node = (.ok handle, after)) :
    handle.diagram.Encodes after.space text := by
  simp only [Session.presence, hnode] at h
  split at h
  · rename_i hlookup
    cases h
    exact hs.presences (text, handle) (mem_of_lookup hlookup)
  · cases encoded_of_encodePresence h with
    | kept hencode hdiagram =>
      rw [hdiagram]
      exact Diagram.Encodes.of_encode hencode

/-- Where it gives none, the text is no formula. -/
lemma ofText_of_presence {α : Type} {node : Node α} (hnode : node.presence = .formula text) {e : Error}
    {after : Session} (h : s.presence node = (.error e, after)) : Formula.ofText text = .error e := by
  simp only [Session.presence, hnode] at h
  split at h
  · cases h
  · cases encoded_of_encodePresence h with
    | refused hencode => exact FeatureSpace.encode_eq_error.1 (congrArg Prod.fst hencode)

end Faithful

/-! Sessions that match -/

/-- Whether two sessions with one checker and one feature model keep matching diagrams of the same ids and have the
same trace. -/
structure Matches (checker : Checker) (places : Option Nat) (source : String) (s t : Session) : Prop where
  left : s.Faithful checker places source
  right : t.Faithful checker places source
  cached : List.Forall₂ (Keyed (Handle.Matches s.space t.space)) s.cache.entries t.cache.entries
  trace : s.trace = t.trace

/-- Whether two answers are the same error or related ones, and the sessions after them match. -/
structure Outcome.Matches {α β : Type} (checker : Checker) (places : Option Nat) (source : String)
    (R : FeatureSpace → FeatureSpace → α → β → Prop) (o : Outcome α) (p : Outcome β) : Prop where
  answer : Except.Matches (R o.2.space p.2.space) o.1 p.1
  sessions : Session.Matches checker places source o.2 p.2

variable {checker : Checker} {places : Option Nat} {source text : String} {s t : Session} {g : Graph}

/-- Steps that go on alike from matching outcomes have matching outcomes. -/
lemma Outcome.Matches.andThen {α β : Type} {R : FeatureSpace → FeatureSpace → α → β → Prop} {o p : Outcome Unit}
    {f : Session → Outcome α} {k : Session → Outcome β}
    (h : Outcome.Matches checker places source (fun _ _ _ _ => True) o p)
    (hnext : ∀ s t, Session.Matches checker places source s t →
      Outcome.Matches checker places source R (f s) (k t)) :
    Outcome.Matches checker places source R (o.andThen f) (p.andThen k) := by
  obtain ⟨r, s⟩ := o
  obtain ⟨r', t⟩ := p
  obtain ⟨hanswer, hsessions⟩ := h
  cases hanswer with
  | error => exact ⟨.error, hsessions⟩
  | ok _ => exact hnext s t hsessions

namespace Matches

variable {α : Type}

/-- Sessions that match have comparable spaces. -/
lemma comparable (h : Matches checker places source s t) : s.space.Comparable t.space :=
  ⟨h.left.nodup, h.right.nodup, h.left.places.trans h.right.places.symm⟩

/-- Sessions that match have the same ids cached. -/
lemma ids (h : Matches checker places source s t) : s.cache.ids = t.cache.ids := keys_of_keyed h.cached

/-- Sessions that match have matching diagrams cached for each id. -/
lemma get? (h : Matches checker places source s t) (id : String) :
    Option.Rel (Handle.Matches s.space t.space) (s.cache.get? id) (t.cache.get? id) := lookup_of_keyed h.cached id

/-- Sessions that match agree on whether an id is cached. -/
lemma contains (h : Matches checker places source s t) (id : String) :
    s.cache.contains id = t.cache.contains id := by
  rw [Bool.eq_iff_iff, Cache.contains_iff, Cache.contains_iff, h.ids]

/-- Giving one presence condition in sessions that match leads to the same error or to matching diagrams. -/
lemma presence (h : Matches checker places source s t) {node : Node α} (hnode : node.presence = .formula text) :
    Outcome.Matches checker places source Handle.Matches (s.presence node) (t.presence node) := by
  have hleft := h.left.presence node
  have hright := h.right.presence node
  have hs := (kept_extends s.space).presence s node (.refl _)
  have ht := (kept_extends t.space).presence t node (.refl _)
  obtain ⟨_, _, _, _, hs'⟩ := s.presence_snd node
  obtain ⟨_, _, _, _, ht'⟩ := t.presence_snd node
  have hcached : Matches checker places source (s.presence node).2 (t.presence node).2 := by
    refine ⟨hleft, hright, ?_, ?_⟩
    · rw [cache_presence, cache_presence]
      exact h.cached.imp fun _ _ he => ⟨he.1, he.2.mono hs ht⟩
    · rw [hs', ht']
      exact h.trace
  refine ⟨?_, hcached⟩
  generalize hout : s.presence node = out at hcached
  generalize hout' : t.presence node = out' at hcached
  obtain ⟨r, after⟩ := out
  obtain ⟨r', after'⟩ := out'
  cases r with
  | error e =>
    have herror := Faithful.ofText_of_presence hnode hout
    cases r' with
    | error e' =>
      cases herror.symm.trans (Faithful.ofText_of_presence hnode hout')
      exact .error
    | ok handle' =>
      obtain ⟨f, r, hf, -⟩ := h.right.encodes_of_presence hnode hout'
      cases herror.symm.trans hf
  | ok handle =>
    have hencodes := h.left.encodes_of_presence hnode hout
    cases r' with
    | error e' =>
      obtain ⟨f, r, hf, -⟩ := hencodes
      cases hf.symm.trans (Faithful.ofText_of_presence hnode hout')
    | ok handle' =>
      exact .ok (Diagram.matches_of_encodes hcached.comparable hencodes (h.right.encodes_of_presence hnode hout'))

/-- Children are bound alike in sessions that match. -/
lemma bindChildren (h : Matches checker places source s t) (parent : String) {cs : List (Fin g.size)}
    (hcs : ∀ c ∈ cs, ∃ text, (g.node c).presence = .formula text) {b b' : Expression.Bindings}
    (hb : Expression.Bindings.Matches s.space t.space b b') :
    Outcome.Matches checker places source Expression.Bindings.Matches
      (bindChildren g parent cs b s) (bindChildren g parent cs b' t) := by
  induction cs generalizing b b' s t with
  | nil => exact ⟨.ok hb, h⟩
  | cons c rest ih =>
    obtain ⟨text, htext⟩ := hcs c List.mem_cons_self
    have hget := h.get? (g.id c)
    have hpresence := h.presence htext
    have hs := (kept_extends s.space).presence s (g.node c) (.refl _)
    have ht := (kept_extends t.space).presence t (g.node c) (.refl _)
    rw [Session.bindChildren, Session.bindChildren]
    generalize s.cache.get? (g.id c) = found at hget
    generalize t.cache.get? (g.id c) = found' at hget
    cases hget with
    | none => exact ⟨.error, h⟩
    | some hcached =>
      simp only
      generalize s.presence (g.node c) = out at hpresence hs
      generalize t.presence (g.node c) = out' at hpresence ht
      obtain ⟨r, after⟩ := out
      obtain ⟨r', after'⟩ := out'
      obtain ⟨hanswer, hsessions⟩ := hpresence
      cases hanswer with
      | error => exact ⟨.error, hsessions⟩
      | ok hcondition =>
        refine ih hsessions (fun c hc => hcs c (List.mem_cons_of_mem _ hc)) ((hb.mono hs ht).put (.diagram ?_))
        exact Diagram.matches_mul hsessions.comparable hcondition (hcached.mono hs ht)

/-- Sessions that match have matching feature models. -/
lemma featureModel (h : Matches checker places source s t) :
    Diagram.Matches s.space t.space s.featureModel.diagram t.featureModel.diagram :=
  Diagram.matches_of_encodes h.comparable h.left.featureModel h.right.featureModel

/-- Sessions that match go on to match when the checker is asked. -/
lemma ask (h : Matches checker places source s t) (model : Model) :
    Matches checker places source (s.ask model).2 (t.ask model).2 where
  left := Faithful.kept.ask s model h.left
  right := Faithful.kept.ask t model h.right
  cached := h.cached
  trace := by
    simp only [Session.ask, h.trace]

/-- A node is computed alike in sessions that match. -/
lemma compute (h : Matches checker places source s t) {i : Fin g.size}
    (hcs : ∀ c ∈ g.children i, ∃ text, (g.node c).presence = .formula text) :
    Outcome.Matches checker places source Diagram.Matches (compute g i s) (compute g i t) := by
  have hasked := h.ask (g.node i).model
  have hbound := hasked.bindChildren (g.id i) hcs .nil
  have hs : s.ask (g.node i).model = (checker (g.node i).model, (s.ask (g.node i).model).2) := by
    rw [Session.ask, h.left.checker]
  have ht : t.ask (g.node i).model = (checker (g.node i).model, (t.ask (g.node i).model).2) := by
    rw [Session.ask, h.right.checker]
  rw [Session.compute, Session.compute, hs, ht]
  cases checker (g.node i).model with
  | error e => exact ⟨.error, hasked⟩
  | ok text =>
    simp only
    generalize Session.bindChildren g (g.id i) (g.children i) [] (s.ask (g.node i).model).2 = out at hbound
    generalize Session.bindChildren g (g.id i) (g.children i) [] (t.ask (g.node i).model).2 = out' at hbound
    obtain ⟨r, after⟩ := out
    obtain ⟨r', after'⟩ := out'
    obtain ⟨hanswer, hsessions⟩ := hbound
    cases hanswer with
    | error => exact ⟨.error, hsessions⟩
    | ok hbindings =>
      simp only
      cases Expression.parse text with
      | error e => exact ⟨.error, hsessions⟩
      | ok expression =>
        have hsolve := Expression.matches_solve hsessions.comparable hbindings expression
        simp only
        generalize expression.solve after.space.owner _ = x at hsolve
        generalize expression.solve after'.space.owner _ = y at hsolve
        cases hsolve with
        | error => exact ⟨.error, hsessions⟩
        | ok hraw => exact ⟨.ok (Diagram.matches_mul hsessions.comparable hsessions.featureModel hraw), hsessions⟩

/-- A node is completed alike in sessions that match. -/
lemma complete (h : Matches checker places source s t) {i : Fin g.size}
    (hcs : ∀ c ∈ g.children i, ∃ text, (g.node c).presence = .formula text) :
    Outcome.Matches checker places source (fun _ _ _ _ => True) (complete g i s) (complete g i t) := by
  have hcompute := h.compute hcs
  rw [Session.complete, Session.complete]
  generalize Session.compute g i s = out at hcompute
  generalize Session.compute g i t = out' at hcompute
  obtain ⟨r, after⟩ := out
  obtain ⟨r', after'⟩ := out'
  obtain ⟨hanswer, hsessions⟩ := hcompute
  cases hanswer with
  | error => exact ⟨.error, hsessions⟩
  | @ok d d' hd =>
    have hleft := Faithful.kept.make after d hsessions.left
    have hright := Faithful.kept.make after' d' hsessions.right
    rcases Bool.eq_false_or_eq_true (after'.cache.contains (g.id i)) with hcached | hcached
    · simp only [make, Cache.put, hsessions.contains, hcached, if_true]
      exact ⟨.error, hleft, hright, hsessions.cached, hsessions.trace⟩
    · simp only [make, Cache.put, hsessions.contains, hcached, Bool.false_eq_true, if_false]
      refine ⟨.ok trivial, ⟨hleft.checker, hleft.places, hleft.nodup, hleft.featureModel, hleft.presences⟩,
        ⟨hright.checker, hright.places, hright.nodup, hright.featureModel, hright.presences⟩, ?_, ?_⟩
      · exact List.rel_append hsessions.cached (.cons ⟨rfl, hd⟩ .nil)
      · have htrace : after.trace = after'.trace := hsessions.trace
        simp only [htrace]

/-- A lookup gives the same in sessions that match. -/
lemma look (h : Matches checker places source s t) (id : String) :
    Option.Rel (Handle.Matches s.space t.space) (s.look id).1 (t.look id).1 ∧
      Matches checker places source (s.look id).2 (t.look id).2 := by
  have hget := h.get? id
  have hleft := Faithful.kept.look s id h.left
  have hright := Faithful.kept.look t id h.right
  refine ⟨by rwa [look_fst, look_fst], hleft, hright, ?_, ?_⟩
  · obtain ⟨_, _, hs, _⟩ := s.look_snd id
    obtain ⟨_, _, ht, _⟩ := t.look_snd id
    rw [entries_look, entries_look, hs, ht]
    exact h.cached
  · rw [Session.look, Session.look, Cache.lookup, Cache.lookup]
    generalize s.cache.get? id = found at hget
    generalize t.cache.get? id = found' at hget
    cases hget with
    | none => exact h.trace
    | some _ => simp only [h.trace]

/-- Children are scanned alike in sessions that match. -/
lemma scan (h : Matches checker places source s t) (path : List String) (cs pending : List (Fin g.size)) :
    Outcome.Matches checker places source (fun _ _ a b => a = b)
      (scan g path cs pending s) (scan g path cs pending t) := by
  induction cs generalizing pending s t with
  | nil => exact ⟨.ok rfl, h⟩
  | cons c rest ih =>
    have hlook := h.look (g.id c)
    rw [Session.scan, Session.scan]
    split
    · exact ⟨.error, h⟩
    · generalize s.look (g.id c) = out at hlook
      generalize t.look (g.id c) = out' at hlook
      obtain ⟨r, after⟩ := out
      obtain ⟨r', after'⟩ := out'
      obtain ⟨hfound, hsessions⟩ := hlook
      cases hfound with
      | none => exact ih hsessions (c :: pending)
      | some _ => exact ih hsessions pending

/-- The recursive evaluation of nodes whose presence conditions are formulas does the same in sessions that
match. -/
theorem visit (h : Matches checker places source s t) {root : Fin g.size}
    (hg : ∀ c, g.Reaches root c → ∃ text, (g.node c).presence = .formula text) {path : List String}
    {nodes : List (Fin g.size)} (hnodes : ∀ i ∈ nodes, g.Reaches root i) :
    Outcome.Matches checker places source (fun _ _ _ _ => True) (visit g path nodes s) (visit g path nodes t) := by
  induction path, nodes, s using visit.induct g generalizing t with
  | case1 path s =>
    rw [visit_nil, visit_nil]
    exact ⟨.ok trivial, h⟩
  | case2 path i rest s hcached ih =>
    rw [visit_cached hcached, visit_cached (by rwa [← h.contains])]
    exact ih h fun j hj => hnodes j (List.mem_cons_of_mem _ hj)
  | case3 path i rest s hcached hi =>
    rw [visit_closing hcached hi, visit_closing (by rwa [← h.contains]) hi]
    exact ⟨.error, h⟩
  | case4 path i rest s hcached hi e after hscan =>
    have hscanned := h.scan (path ++ [g.id i]) (g.children i).reverse []
    rw [visit_of_scan_error hcached hi hscan]
    rw [hscan] at hscanned
    generalize hscan' : Session.scan g (path ++ [g.id i]) (g.children i).reverse [] t = out at hscanned
    obtain ⟨r, after'⟩ := out
    obtain ⟨hanswer, hsessions⟩ := hscanned
    cases hanswer with
    | error =>
      rw [visit_of_scan_error (by rwa [← h.contains]) hi hscan']
      exact ⟨.error, hsessions⟩
  | case5 path i rest s hcached hi pending after hscan ih₁ ih₂ =>
    have hscanned := h.scan (path ++ [g.id i]) (g.children i).reverse []
    rw [visit_of_scan_ok hcached hi hscan]
    rw [hscan] at hscanned
    generalize hscan' : Session.scan g (path ++ [g.id i]) (g.children i).reverse [] t = out at hscanned
    obtain ⟨r, after'⟩ := out
    obtain ⟨hanswer, hsessions⟩ := hscanned
    cases hanswer with
    | ok hpending =>
      cases hpending
      have hi' := hnodes i List.mem_cons_self
      have hchildren : ∀ c ∈ g.children i, g.Reaches root c := fun c hc => hi'.tail hc
      rw [visit_of_scan_ok (by rwa [← h.contains]) hi hscan']
      refine (ih₁ hsessions fun c hc => ?_).andThen fun s₁ t₁ h₁ => ?_
      · rw [pending_eq hscan] at hc
        exact hchildren c (List.mem_filter.1 hc).1
      · refine (h₁.complete fun c hc => hg c (hchildren c hc)).andThen fun s₂ t₂ h₂ => ?_
        exact ih₂ s₂ h₂ fun j hj => hnodes j (List.mem_cons_of_mem _ hj)

/-- So does an evaluation. -/
theorem evaluateNode (h : Matches checker places source s t) {root : Fin g.size}
    (hg : ∀ c, g.Reaches root c → ∃ text, (g.node c).presence = .formula text) :
    Outcome.Matches checker places source Handle.Matches
      (evaluateNode g root s) (evaluateNode g root t) := by
  have huntraced : Matches checker places source { s with trace := .empty } { t with trace := .empty } :=
    ⟨Faithful.kept.untraced s h.left, Faithful.kept.untraced t h.right, h.cached, rfl⟩
  have hlook := huntraced.look (g.id root)
  rw [Session.evaluateNode, Session.evaluateNode]
  have hspace (s : Session) : ({ s with trace := .empty }.look (g.id root)).2.space = s.space := by
    obtain ⟨_, _, hs, _⟩ := look_snd { s with trace := .empty } (g.id root)
    rw [hs]
  have hs := hspace s
  have ht := hspace t
  generalize Session.look { s with trace := .empty } (g.id root) = out at hlook hs
  generalize Session.look { t with trace := .empty } (g.id root) = out' at hlook ht
  obtain ⟨r, after⟩ := out
  obtain ⟨r', after'⟩ := out'
  obtain ⟨hfound, hsessions⟩ := hlook
  cases hfound with
  | some hd =>
    refine ⟨.ok ?_, hsessions⟩
    rw [hs, ht]
    exact hd
  | none =>
    have hvisit : Outcome.Matches checker places source (fun _ _ _ _ => True) (Session.visit g [] [root] after)
        (Session.visit g [] [root] after') := by
      refine hsessions.visit hg fun i hi => ?_
      cases List.mem_singleton.1 hi
      exact .refl
    simp only [Walk.run_eq_visit]
    generalize Session.visit g [] [root] after = out at hvisit
    generalize Session.visit g [] [root] after' = out' at hvisit
    obtain ⟨r, after⟩ := out
    obtain ⟨r', after'⟩ := out'
    obtain ⟨hanswer, hsessions⟩ := hvisit
    cases hanswer with
    | error => exact ⟨.error, hsessions⟩
    | ok _ =>
      have hget := hsessions.get? (g.id root)
      simp only
      generalize after.cache.get? (g.id root) = found at hget
      generalize after'.cache.get? (g.id root) = found' at hget
      cases hget with
      | none => exact ⟨.error, hsessions⟩
      | some hd => exact ⟨.ok hd, hsessions⟩

end Matches

/-- Whether two evaluations come to the same: both fail with the same error, or both succeed with diagrams that are
equal at every product, and both computed and looked up the same nodes. -/
structure Outcome.Agrees (o p : Outcome Handle) : Prop where
  answer : Except.Matches (fun a b => ∀ x, a.diagram.evaluate o.2.space x = b.diagram.evaluate p.2.space x) o.1 p.1
  evaluated : o.2.trace.evaluated = p.2.trace.evaluated
  hits : o.2.trace.hits = p.2.trace.hits

/-! Sessions that are closed -/

/-- No small step of an evaluation closes a session or opens it again. -/
lemma kept_closed (closed : Bool) : Kept fun s => s.closed = closed where
  untraced _ hs := hs
  look s id hs := by
    obtain ⟨cache, hits, hlook, _⟩ := s.look_snd id
    rwa [hlook]
  ask _ _ hs := hs
  presence s node hs := by
    obtain ⟨space, presences, warnings, supply, hpresence⟩ := s.presence_snd node
    rwa [hpresence]
  make _ _ hs := hs
  record hs _ := hs

/-- A session that was started is open. -/
lemma closed_of_start {settings : Settings} {serial : Nat} {source : String} {checker : Checker}
    {builder : Option Builder} {s : Session} (h : start settings serial source checker builder = .ok s) :
    s.closed = false := by
  rw [start] at h
  split at h
  · cases h
  · cases h
    rfl

/-- However a closed session is used, it stays closed. -/
lemma closed_after {s : Session} (h : s.closed = true) (calls : List Call) : (s.after calls).closed = true := by
  refine (kept_closed true).after (fun _ _ hs => hs) (fun _ hs => hs) (fun _ hs => hs) ?_ calls h
  intro s hs
  rw [close, if_pos hs]
  exact hs

/-- An evaluation that closes its session afterwards returns what an evaluation returns, its error included.
It leaves nothing of an open session but its features, and for good: whatever else is asked of it, no node is
evaluated any more. -/
theorem evaluateOnce_spec (g : Graph) (i : Fin g.size) (s : Session) :
    (evaluateOnce g i s).1 = (evaluate g i s).1 ∧
    (s.closed = false → (evaluateOnce g i s).2.cache.entries = [] ∧ (evaluateOnce g i s).2.presences = []) ∧
    ∀ (calls : List Call) (h : Graph) (j : Fin h.size),
      evaluate h j ((evaluateOnce g i s).2.after calls) =
        (.error .sessionClosed, (evaluateOnce g i s).2.after calls) := by
  have hafter : (evaluateOnce g i s).2 = (evaluate g i s).2.close := rfl
  have hclosed : (evaluate g i s).2.close.closed = true := by
    rw [close]
    split
    · assumption
    · rfl
  refine ⟨rfl, fun hopen => ?_, fun calls h j => ?_⟩
  · have hstill : (evaluate g i s).2.closed = false := (kept_closed false).evaluate i hopen
    rw [hafter, close, if_neg (by simp [hstill])]
    exact ⟨rfl, rfl⟩
  · rw [hafter, evaluate, if_pos (closed_after hclosed calls)]

/-! Sessions that are reset -/

/-- After a reset an open session evaluates a node as a session does that was started anew, whatever it was
used for, as long as the presence conditions below the node are formulas. -/
theorem evaluate_reset {settings : Settings} {serial serial' : Nat} {source : String} {checker : Checker}
    {builder builder' : Option Builder} {s t : Session} {calls : List Call} {g : Graph} {root : Fin g.size}
    (hs : start settings serial source checker builder = .ok s) (hopen : (s.after calls).closed = false)
    (ht : start settings serial' source checker builder' = .ok t)
    (hg : ∀ c, g.Reaches root c → ∃ text, (g.node c).presence = .formula text) :
    (evaluate g root (s.after calls).reset).Agrees (evaluate g root t) := by
  have hused := (Faithful.of_start hs).after calls
  -- nothing is cached in either session, but the traces of what was done before differ
  have hsessions : Matches checker settings.places source
      { (s.after calls).reset with trace := .empty } { t with trace := .empty } := by
    obtain ⟨_, _, hcache, _⟩ := started ht
    refine ⟨⟨hused.checker, hused.places, hused.nodup, hused.featureModel, hused.presences⟩,
      Faithful.kept.untraced t (Faithful.of_start ht), ?_, rfl⟩
    simp only [reset, hcache]
    exact .nil
  have hevaluated := hsessions.evaluateNode hg
  have heval : evaluate g root (s.after calls).reset =
      evaluateNode g root { (s.after calls).reset with trace := .empty } := by
    rw [evaluate, if_neg (by simp [reset, hopen])]
    rfl
  have heval' : evaluate g root t = evaluateNode g root { t with trace := .empty } := by
    rw [evaluate, if_neg (by simp [closed_of_start ht])]
    rfl
  rw [heval, heval']
  refine ⟨?_, by rw [hevaluated.sessions.trace], by rw [hevaluated.sessions.trace]⟩
  exact hevaluated.answer.imp fun hmatch => hmatch.evaluate

/-- The theorem applies, for example, to a session that evaluated a root with the child that it shares and
declared a feature. -/
theorem evaluate_reset_twin : ∃ s t handle,
    let used := s.after [.evaluate Graph.twin (1 : Fin 4), .declare ["e"]]
    start .standard 0 "a" Checker.plain none = .ok s ∧ start .standard 1 "a" Checker.plain none = .ok t ∧
    used.closed = false ∧ used.cache.get? "q" = some handle ∧
    (evaluate Graph.twin (1 : Fin 4) used.reset).Agrees (evaluate Graph.twin (1 : Fin 4) t) := by
  obtain ⟨s, handle, after, hs, -, heval⟩ := exists_evaluated
  obtain ⟨t, ht⟩ := exists_start .standard 1 ofText_feature Checker.plain none
  have hopen := closed_of_start hs
  have hafter := (kept_closed false).evaluateNode (1 : Fin 4) hopen (g := Graph.twin)
  have hused : s.after [.evaluate Graph.twin (1 : Fin 4), .declare ["e"]] =
      { after with space := after.space.declare ["e"] } := by
    simp [Session.after, Call.respond, evaluate, hopen, heval]
  rw [heval] at hafter
  refine ⟨s, t, handle, hs, ht, by rw [hused]; exact hafter, by rw [hused]; exact get?_of_evaluateNode heval, ?_⟩
  refine evaluate_reset hs (by rw [hused]; exact hafter) ht fun c _ => ?_
  rcases Graph.cases_twin c with rfl | rfl | rfl | rfl <;> exact ⟨_, rfl⟩

end Session

end ProductLine
