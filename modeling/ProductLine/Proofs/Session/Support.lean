import Mathlib.Logic.Relation
import Mathlib.Tactic.Common
import ProductLine.Proofs.Diagram.Queries
import ProductLine.Proofs.Graph.Conditions
import ProductLine.Proofs.Session.Forest
import ProductLine.Proofs.Session.Renewal
import ProductLine.Proofs.Workspace

/-!
# Features that matter

A session may hold any number of features that have nothing to do with a graph. The reliability of a node depends on
none but those that the feature model and the presence conditions of the nodes below it mention
(`Session.support_of_evaluateNode`). The reason is that nothing that is done with diagrams needs further levels
(`Diagram.DecidedBy`), so every diagram that an evaluation puts into the cache is about these features only
(`Session.Speaks`).
-/

namespace ProductLine

/-- The levels that belong to no features but certain ones. -/
def FeatureSpace.LevelOf (space : FeatureSpace) (known : String → Prop) (level : Nat) : Prop :=
  ∀ name, space.features[level]? = some name → known name

namespace Diagram

variable {known : String → Prop} {space later : FeatureSpace} {d : Diagram}

/-- A diagram depends on certain features only exactly if it is decided by their levels. -/
lemma support_iff : (∀ name ∈ d.support space, known name) ↔ d.DecidedBy (space.LevelOf known) := by
  simp only [DecidedBy, Region.decidedBy_iff, mem_support_iff_level]
  constructor
  · exact fun h e he level hdepends name hname => h name ⟨level, hname, e, he, hdepends⟩
  · rintro h name ⟨level, hname, e, he, hdepends⟩
    exact h e he level hdepends name hname

/-- Features on which a diagram does not depend do not change its value. -/
lemma evaluate_congr_of_support (h : ∀ name ∈ d.support space, known name) {x y : String → Bool}
    (hxy : ∀ name, known name → x name = y name) : d.evaluate space x = d.evaluate space y := by
  apply (support_iff.1 h).valueAt_congr
  intro level hlevel
  rw [FeatureSpace.product, FeatureSpace.product]
  cases hname : space.features[level]? with
  | none => rfl
  | some name => exact hxy name (hlevel name hname)

namespace Encodes

/-- A diagram that encodes a text depends on features only that the text mentions, whatever is declared later. -/
lemma mentions {text : String} (h : d.Encodes space text) (hspace : space.features.Nodup)
    (hlater : space.Extends later) : ∀ name ∈ d.support later, Formula.Mentions text name := by
  intro name hname
  obtain ⟨f, r, hf, rfl, hwithin, hholds⟩ := h
  have hcanonical : (ofRegion space.owner r).Canonical space := .ofRegion hwithin
  obtain ⟨level, hget, e, he, hdepends⟩ := mem_support_iff_level.1 hname
  have hlevel := (hcanonical.within e he).lt_of_dependsOn hdepends
  have hget' : space.features[level]? = some name := by
    obtain ⟨more, hmore⟩ := hlater.features
    rwa [← hmore, List.getElem?_append_left hlevel] at hget
  have hname' : name ∈ (ofRegion space.owner r).support space :=
    mem_support_iff_level.2 ⟨level, hget', e, he, hdepends⟩
  obtain ⟨x, y, hxy, hne⟩ := (hcanonical.mem_support hspace (Workspace.hasNaN_ofRegion _ r)).1 hname'
  apply Formula.mentions_of_ofText hf
  by_contra hnot
  apply hne
  have hsame : f.holds x = f.holds y := Formula.holds_congr fun n hn => hxy n fun heq => hnot (heq ▸ hn)
  rw [evaluate, evaluate, valueAt_ofRegion, valueAt_ofRegion, hholds, hholds, hsame]

end Encodes

end Diagram

/-- Whether a presence condition mentions a feature: its text does, or its diagram depends on it. -/
def Presence.Mentions : Presence → FeatureSpace → String → Prop
  | .formula text, _, name => Formula.Mentions text name
  | .diagram handle, space, name => name ∈ handle.diagram.support space

/-- Whether the presence condition of a node on which a root depends mentions a feature. -/
def Graph.Mentions (g : Graph) (space : FeatureSpace) (root : Fin g.size) (name : String) : Prop :=
  ∃ c, Relation.TransGen g.Child root c ∧ (g.node c).presence.Mentions space name

/-- Whether a diagram depends on certain features only, whatever is declared later. -/
def Diagram.About (known : FeatureSpace → String → Prop) (space : FeatureSpace) (d : Diagram) : Prop :=
  ∀ later, space.Extends later → ∀ name ∈ d.support later, known later name

namespace Diagram.About

variable {known more : FeatureSpace → String → Prop} {space later : FeatureSpace} {a b d : Diagram}

/-- A diagram about known features stays so when features are declared. -/
lemma mono (h : About known space d) (hlater : space.Extends later) : About known later d :=
  fun latest hlatest => h latest (hlater.trans hlatest)

/-- A diagram about some features is about more of them. -/
lemma imp (h : About known space d) (hmore : ∀ later name, known later name → more later name) :
    About more space d :=
  fun later hlater name hname => hmore later name (h later hlater name hname)

/-- The product of two diagrams is about what both are about. -/
lemma mul (ha : About known space a) (hb : About known space b) : About known space (a.mul b) :=
  fun later hlater => support_iff.2 ((support_iff.1 (ha later hlater)).mul (support_iff.1 (hb later hlater)))

/-- An expression that is solved is about what the diagrams bound to names are about. -/
lemma of_solve {owner : Owner} {bindings : Expression.Bindings} {e : Expression}
    (hb : ∀ text b, bindings.get? text = some (.diagram b) → About known space b)
    (h : e.solve owner bindings = .ok d) : About known space d := by
  intro later hlater
  have hdecided : d.DecidedBy (later.LevelOf (known later)) :=
    Expression.decidedBy_solve (fun text b hget => support_iff.1 (hb text b hget later hlater)) h
  exact support_iff.2 hdecided

end Diagram.About

namespace Session

variable {checker : Checker} {places : Option Nat} {source : String} {known : FeatureSpace → String → Prop}
  {g : Graph} {root i : Fin g.size} {s t after : Session}

/-- A presence condition that a faithful session gives depends on the features that it mentions. -/
lemma Faithful.about_presence {α : Type} {node : Node α} (hs : s.Faithful checker places source) {handle : Handle}
    (h : s.presence node = (.ok handle, after)) : handle.diagram.About node.presence.Mentions after.space := by
  cases hp : node.presence with
  | diagram given =>
    simp only [Session.presence, hp] at h
    split at h
    · cases h
      exact fun later hlater name hname => hname
    · cases h
  | formula text =>
    have hnodup := (hs.presence node).nodup
    rw [h] at hnodup
    exact fun later hlater => (hs.encodes_of_presence hp h).mentions hnodup hlater

/-- Whether a session keeps what it was given faithfully, and the cached diagrams depend on certain features
only. -/
structure Speaks (known : FeatureSpace → String → Prop) (checker : Checker) (places : Option Nat) (source : String)
    (s : Session) : Prop where
  faithful : s.Faithful checker places source
  cached : ∀ e ∈ s.cache.entries, e.2.diagram.About known s.space

namespace Speaks

/-- What declares features and leaves the cached diagrams as they are changes nothing about them. -/
lemma of_faithful (hs : s.Speaks known checker places source) (ht : t.Faithful checker places source)
    (hspace : s.space.Extends t.space) (hentries : t.cache.entries = s.cache.entries) :
    t.Speaks known checker places source := by
  refine ⟨ht, ?_⟩
  rw [hentries]
  exact fun e he => (hs.cached e he).mono hspace

/-- A session goes on to speak of known features when a node is computed. -/
lemma compute (hs : s.Speaks known checker places source) (i : Fin g.size) :
    (compute g i s).2.Speaks known checker places source :=
  hs.of_faithful (Faithful.kept.compute i hs.faithful) ((kept_extends s.space).compute i (.refl _))
    (congrArg Cache.entries (cache_compute g i s))

/-- A session goes on to speak of known features under a lookup. -/
lemma look (hs : s.Speaks known checker places source) (id : String) :
    (s.look id).2.Speaks known checker places source :=
  hs.of_faithful (Faithful.kept.look s id hs.faithful) ((kept_extends s.space).look s id (.refl _))
    (entries_look s id)

/-- Children whose presence conditions mention certain features only are bound to diagrams that depend on
these only. -/
lemma about_of_bindChildren {parent : String} {cs : List (Fin g.size)} {bindings out : Expression.Bindings}
    (hs : s.Speaks known checker places source)
    (hcs : ∀ c ∈ cs, ∀ later name, (g.node c).presence.Mentions later name → known later name)
    (hb : ∀ text b, bindings.get? text = some (.diagram b) → b.About known s.space)
    (h : bindChildren g parent cs bindings s = (.ok out, after)) :
    ∀ text b, out.get? text = some (.diagram b) → b.About known after.space := by
  induction cs generalizing bindings s with
  | nil =>
    cases h
    exact hb
  | cons c rest ih =>
    rw [bindChildren] at h
    split at h
    · cases h
    · rename_i reliability hget
      have hspace := (kept_extends s.space).presence s (g.node c) (.refl _)
      have hmid := hs.of_faithful (hs.faithful.presence (g.node c)) hspace
        (congrArg Cache.entries (cache_presence s (g.node c)))
      split at h
      · cases h
      · rename_i condition mid hp
        rw [hp] at hspace hmid
        have hcondition := (hs.faithful.about_presence hp).imp (hcs c List.mem_cons_self)
        have hreliability := (hs.cached _ (mem_entries_of_get? hget)).mono hspace
        refine ih hmid (fun d hd => hcs d (List.mem_cons_of_mem c hd)) ?_ h
        intro text b hbound
        rw [Expression.Bindings.get?_put] at hbound
        split at hbound
        · cases hbound
          exact hcondition.mul hreliability
        · exact (hb text b hbound).mono hspace

/-- What is computed of children whose presence conditions mention certain features only depends on these only. -/
lemma about_of_compute (hs : s.Speaks known checker places source)
    (hsource : ∀ later name, Formula.Mentions source name → known later name)
    (hchildren : ∀ c ∈ g.children i, ∀ later name, (g.node c).presence.Mentions later name → known later name)
    {d : Diagram} (h : Session.compute g i s = (.ok d, after)) : d.About known after.space := by
  have hafter := hs.compute (g := g) i
  rw [h] at hafter
  cases computed_of_compute h with
  | solved hchecker hbind hparse hsolve =>
    have hasked := hs.of_faithful (Faithful.kept.ask s (g.node i).model hs.faithful) (.refl _) rfl
    have hnone (text : String) (b : Diagram) (hget : Expression.Bindings.get? [] text = some (.diagram b)) :
        b.About known s.space := nomatch (List.lookup_nil.symm.trans hget)
    have hbound := hasked.about_of_bindChildren hchildren hnone hbind
    have hmodel : after.featureModel.diagram.About known after.space := by
      intro later hlater name hname
      exact hsource later name (hafter.faithful.featureModel.mentions hafter.faithful.nodup hlater name hname)
    exact hmodel.mul (.of_solve hbound hsolve)

/-- Completing a node whose children have such presence conditions puts such a diagram into the cache. -/
lemma complete (hs : s.Speaks known checker places source)
    (hsource : ∀ later name, Formula.Mentions source name → known later name)
    (hchildren : ∀ c ∈ g.children i, ∀ later name, (g.node c).presence.Mentions later name → known later name) :
    (complete g i s).2.Speaks known checker places source := by
  have hcomputed := hs.compute (g := g) i
  generalize hout : Session.complete g i s = out
  obtain ⟨r, after⟩ := out
  cases completed_of_complete hout with
  | failed h => rwa [h] at hcomputed
  | @refused d e mid h hput =>
    rw [h] at hcomputed
    exact hcomputed.of_faithful (Faithful.kept.make mid d hcomputed.faithful) (.refl _) rfl
  | @recorded d mid cache h hput =>
    have habout := hs.about_of_compute hsource hchildren h
    rw [h] at hcomputed
    obtain ⟨_, rfl⟩ := Cache.put_ok hput
    have hfaithful := hcomputed.faithful
    refine ⟨⟨hfaithful.checker, hfaithful.places, hfaithful.nodup, hfaithful.featureModel, hfaithful.presences⟩, ?_⟩
    intro e he
    rcases List.mem_append.1 he with he | he
    · exact hcomputed.cached e he
    · obtain rfl := List.mem_singleton.1 he
      exact habout

end Speaks

/-- The features of the feature model are those that its text mentions. -/
lemma mem_features_iff {settings : Settings} {serial : Nat} {builder : Option Builder}
    (h : start settings serial source checker builder = .ok s) {name : String} :
    name ∈ s.featureModel.features ↔ Formula.Mentions source name := by
  rw [start] at h
  split at h
  · cases h
  · rename_i model space hbuild
    cases h
    rw [FeatureModel.build] at hbuild
    split at hbuild
    · cases hbuild
    · split at hbuild
      · cases hbuild
      · rename_i normal hnormal
        cases hbuild
        constructor
        · exact fun hmem => ⟨normal, hnormal, hmem⟩
        · rintro ⟨normal', hnormal', hmem⟩
          cases hnormal.symm.trans hnormal'
          exact hmem

/-- Evaluated with nothing in the cache, whatever else was declared and done before, the reliability of a node
depends on no features but those of the feature model and those that the presence conditions of the nodes
below it mention. So it does not change with any other feature, be it declared before or later. -/
theorem support_of_evaluateNode {settings : Settings} {serial : Nat} {builder : Option Builder}
    (hstart : start settings serial source checker builder = .ok s) (calls : List Call)
    (hempty : (s.after calls).cache.entries = []) {handle : Handle}
    (h : evaluateNode g root (s.after calls) = (.ok handle, after)) {later : FeatureSpace}
    (hlater : after.space.Extends later) :
    (∀ name ∈ handle.diagram.support later, name ∈ s.featureModel.features ∨ g.Mentions later root name) ∧
    ∀ x y : String → Bool,
      (∀ name, name ∈ s.featureModel.features ∨ g.Mentions later root name → x name = y name) →
      handle.diagram.evaluate later x = handle.diagram.evaluate later y := by
  let known (later : FeatureSpace) (name : String) : Prop :=
    name ∈ s.featureModel.features ∨ g.Mentions later root name
  have hsource : ∀ later name, Formula.Mentions source name → known later name :=
    fun _ _ hname => .inl ((mem_features_iff hstart).2 hname)
  have hbefore : (s.after calls).Speaks known checker settings.places source :=
    ⟨(Faithful.of_start hstart).after calls, by simp [hempty]⟩
  have hafter : (evaluateNode g root (s.after calls)).2.Speaks known checker settings.places source := by
    apply evaluateNode_keeps (Q := g.Reaches root) (I := Speaks known checker settings.places source)
    · exact fun hs => hs.of_faithful (Faithful.kept.untraced _ hs.faithful) (.refl _) rfl
    · exact fun t id ht => ht.look id
    · intro i t hi ht
      apply ht.complete hsource
      exact fun c hc later name hname => .inr ⟨c, .tail' hi hc, hname⟩
    · exact fun i hi c hc => hi.tail hc
    · exact .refl
    · exact hbefore
  have hcached := get?_of_evaluateNode h
  rw [h] at hafter
  have hsupport := hafter.cached _ (mem_entries_of_get? hcached) later hlater
  exact ⟨hsupport, fun x y hxy => Diagram.evaluate_congr_of_support hsupport hxy⟩

/-- A feature declared in between does not change the reliability of a node whose child is present with
another one. -/
theorem support_of_evaluateNode_twin : ∃ s handle after,
    start .standard 0 "a" Checker.plain none = .ok s ∧
    evaluateNode Graph.twin (1 : Fin 4) (s.after [.declare ["e"]]) = (.ok handle, after) ∧
    "e" ∈ after.space.features ∧
    ∀ x answer, handle.diagram.evaluate after.space (Function.update x "e" answer) =
      handle.diagram.evaluate after.space x := by
  obtain ⟨s, hstart⟩ := exists_start .standard 0 ofText_feature Checker.plain none
  obtain ⟨f, _, hs⟩ := Analyses.of_start hstart
  have hdeclared := hs.after [.declare ["e"]]
  have hempty : (s.after [.declare ["e"]]).cache.entries = [] := by
    show s.cache.entries = []
    rw [(started hstart).2.2.1]
    rfl
  have hforest := Graph.forest_twin [(1 : Fin 4)]
  have hunder : Graph.twin.Under [(1 : Fin 4)] 1 := .of_mem List.mem_cons_self
  obtain ⟨handle, after, heval⟩ := exists_evaluateNode hdeclared.wellFormed (hforest.wellFormed hunder)
    (fun c hc => hforest.canonical (hunder.trans hc) _) (Graph.evaluable_twin _ _ 1) (.of_empty hdeclared hempty)
  obtain ⟨_, hsame⟩ := support_of_evaluateNode hstart _ hempty heval (.refl after.space)
  have hspace :=
    (kept_extends (s.after [.declare ["e"]]).space).evaluateNode (g := Graph.twin) (1 : Fin 4) (.refl _)
  rw [heval] at hspace
  refine ⟨s, handle, after, hstart, heval, ?_, ?_⟩
  · exact hspace.features.subset (FeatureSpace.mem_declare List.mem_cons_self)
  · intro x answer
    apply hsame
    intro name hname
    apply Function.update_of_ne
    rintro rfl
    -- neither the feature model nor a presence condition mentions the feature
    have hunmentioned {text : String} (hnormal : Formula.normalize text = .ok text)
        (hfeatures : "e" ∉ Formula.features text) : ¬ Formula.Mentions text "e" := by
      rintro ⟨normal, hnormal', hmem⟩
      cases hnormal.symm.trans hnormal'
      exact hfeatures hmem
    have ha : ¬ Formula.Mentions "a" "e" := hunmentioned (by decide +kernel) (by decide +kernel)
    have hb : ¬ Formula.Mentions "b" "e" := hunmentioned (by decide +kernel) (by decide +kernel)
    rcases hname with hname | ⟨c, _, hname⟩
    · exact ha ((mem_features_iff hstart).1 hname)
    · rcases Graph.cases_twin c with rfl | rfl | rfl | rfl
      · exact ha hname
      · exact ha hname
      · exact ha hname
      · exact hb hname

end Session

end ProductLine
