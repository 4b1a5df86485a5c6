import Mathlib.Tactic.Common
import ProductLine.Proofs.Expression.Solution
import ProductLine.Proofs.Session.Products

/-!
# Canonical diagrams in sessions

The feature model of a session and the diagrams it keeps for presence conditions are canonical when it is
started (`Session.Canonical.of_start`) and stay so with every step of an evaluation
(`Session.Canonical.kept`). If the presence conditions of the children of a node are canonical and so are
their cached diagrams, the diagram computed for the node is canonical (`canonical_of_compute`), so everything
that a session holds stays canonical, however it is used (`Tidy.respond`), whatever fails on the way.
-/

namespace ProductLine

/-- Whether a presence condition is canonical if it is a diagram of a feature space. -/
def Presence.Canonical (space : FeatureSpace) : Presence → Prop
  | .formula _ => True
  | .diagram handle => handle.diagram.owner = space.owner → handle.diagram.Canonical space

/-- A canonical presence condition stays so when features are declared. -/
lemma Presence.Canonical.mono {space later : FeatureSpace} {p : Presence} (h : p.Canonical space)
    (hlater : space.Extends later) : p.Canonical later := by
  cases p with
  | formula => trivial
  | diagram handle => exact fun howner => (h (howner.trans hlater.owner)).mono hlater

namespace Session

/-- Whether a session declares no feature twice and its feature model and presence conditions are canonical. -/
structure Canonical (s : Session) : Prop where
  nodup : s.space.features.Nodup
  featureModel : s.featureModel.diagram.Canonical s.space
  presences : ∀ e ∈ s.presences, e.2.diagram.Canonical s.space

namespace Canonical

variable {s : Session}

/-- Encoding a presence condition keeps what the session holds canonical. -/
lemma encodePresence (hs : s.Canonical) (id text : String) : (s.encodePresence id text).2.Canonical := by
  have hspace := s.space.encode_extends text
  have hnodup := FeatureSpace.nodup_encode hs.nodup text
  generalize hout : s.encodePresence id text = out
  obtain ⟨result, after⟩ := out
  cases encoded_of_encodePresence hout with
  | refused hencode =>
    rw [hencode] at hspace hnodup
    exact ⟨hnodup, hs.featureModel.mono hspace, fun e he => (hs.presences e he).mono hspace⟩
  | kept hencode hdiagram =>
    have hwithin := FeatureSpace.within_of_encode hencode
    rw [hencode] at hspace hnodup
    refine ⟨hnodup, hs.featureModel.mono hspace, ?_⟩
    intro e he
    rcases List.mem_append.1 he with he | he
    · exact (hs.presences e he).mono hspace
    · obtain rfl := List.mem_singleton.1 he
      simp only [hdiagram]
      exact .ofRegion hwithin

/-- Asking for a presence condition keeps what the session holds canonical. -/
lemma presence {α : Type} (hs : s.Canonical) (node : Node α) : (s.presence node).2.Canonical := by
  rw [Session.presence]
  split
  · exact hs
  · split
    · exact hs
    · exact hs.encodePresence node.id _

/-- Every small step of an evaluation keeps the feature model and the presence conditions canonical. -/
lemma kept : Kept Canonical where
  untraced _ hs := ⟨hs.nodup, hs.featureModel, hs.presences⟩
  look s id hs := by
    obtain ⟨cache, hits, hlook, _⟩ := s.look_snd id
    rw [hlook]
    exact ⟨hs.nodup, hs.featureModel, hs.presences⟩
  ask _ _ hs := ⟨hs.nodup, hs.featureModel, hs.presences⟩
  presence _ node hs := hs.presence node
  make _ _ hs := ⟨hs.nodup, hs.featureModel, hs.presences⟩
  record hs _ := ⟨hs.nodup, hs.featureModel, hs.presences⟩

/-- Declaring features keeps what the session holds canonical. -/
lemma declare (hs : s.Canonical) (names : List String) :
    Canonical { s with space := s.space.declare names } := by
  have hspace := s.space.declare_extends_self names
  exact ⟨FeatureSpace.nodup_declare hs.nodup names, hs.featureModel.mono hspace,
    fun e he => (hs.presences e he).mono hspace⟩

/-- Forgetting everything keeps what the session holds canonical. -/
lemma clear (hs : s.Canonical) : s.clear.Canonical := by
  refine ⟨hs.nodup, hs.featureModel, ?_⟩
  intro e he
  cases he

/-- A session that was started is canonical. -/
lemma of_start {settings : Settings} {serial : Nat} {source : String} {checker : Checker} {builder : Option Builder}
    (h : start settings serial source checker builder = .ok s) : s.Canonical := by
  obtain ⟨⟨r, hencode, hmodel⟩, _, _, hpresences⟩ := started h
  refine ⟨?_, ?_, ?_⟩
  · have hfresh : (settings.space serial).features.Nodup := by
      show ((FeatureSpace.mk ⟨serial, settings.places⟩ []).declare settings.order).features.Nodup
      exact FeatureSpace.nodup_declare List.nodup_nil settings.order
    have hnodup := FeatureSpace.nodup_encode hfresh source
    rwa [hencode] at hnodup
  · rw [hmodel]
    exact .ofRegion (FeatureSpace.within_of_encode hencode)
  · rw [hpresences]
    intro e he
    cases he

/-- The diagram that a session gives for a canonical presence condition is canonical. -/
lemma canonical_presence {α : Type} (hs : s.Canonical) {node : Node α} (hnode : node.presence.Canonical s.space)
    {handle : Handle} {after : Session} (h : s.presence node = (.ok handle, after)) :
    handle.diagram.Canonical after.space := by
  rw [Session.presence] at h
  split at h
  · rename_i given hgiven
    rw [hgiven] at hnode
    split at h
    · rename_i howner
      cases h
      exact hnode howner
    · cases h
  · split at h
    · rename_i hlookup
      cases h
      exact hs.presences _ (mem_of_lookup hlookup)
    · cases encoded_of_encodePresence h with
      | kept hencode hdiagram =>
        rw [hdiagram]
        exact .ofRegion (FeatureSpace.within_of_encode hencode)

/-- The diagram that a session gives for any presence condition is one of its own. -/
lemma owner_presence {α : Type} (hs : s.Canonical) {node : Node α} {handle : Handle} {after : Session}
    (h : s.presence node = (.ok handle, after)) : handle.diagram.owner = after.space.owner := by
  rw [Session.presence] at h
  split at h
  · split at h
    · rename_i howner
      cases h
      exact howner
    · cases h
  · split at h
    · rename_i hlookup
      cases h
      exact (hs.presences _ (mem_of_lookup hlookup)).owner
    · cases encoded_of_encodePresence h with
      | kept _ hdiagram =>
        rw [hdiagram]
        rfl

end Canonical

section Compute

variable {g : Graph} {i : Fin g.size} {s after : Session}

/-- Names are bound to canonical diagrams if the children have canonical presence conditions and diagrams. -/
lemma canonical_of_bindChildren {parent : String} {cs : List (Fin g.size)} {bindings out : Expression.Bindings}
    (hs : s.Canonical) (hpresence : ∀ c ∈ cs, (g.node c).presence.Canonical s.space)
    (hcached : ∀ c ∈ cs, ∀ handle, s.cache.get? (g.id c) = some handle → handle.diagram.Canonical s.space)
    (hbound : bindings.Canonical s.space) (h : bindChildren g parent cs bindings s = (.ok out, after)) :
    out.Canonical after.space := by
  induction cs generalizing bindings s with
  | nil =>
    cases h
    exact hbound
  | cons c rest ih =>
    rw [bindChildren] at h
    split at h
    · cases h
    · rename_i reliability hget
      have hspace := (kept_extends s.space).presence s (g.node c) (.refl _)
      have hcache := cache_presence s (g.node c)
      have hmid := hs.presence (g.node c)
      split at h
      · cases h
      · rename_i condition mid hp
        rw [hp] at hspace hcache hmid
        have hcache : mid.cache = s.cache := hcache
        have hspace : s.space.Extends mid.space := hspace
        have hcondition := hs.canonical_presence (hpresence c List.mem_cons_self) hp
        have hchild := (hcached c List.mem_cons_self reliability hget).mono hspace
        refine ih hmid ?_ ?_ ?_ h
        · exact fun d hd => (hpresence d (List.mem_cons_of_mem c hd)).mono hspace
        · intro d hd handle hhandle
          rw [hcache] at hhandle
          exact (hcached d (List.mem_cons_of_mem c hd) handle hhandle).mono hspace
        · intro text operand hoperand
          rw [Expression.Bindings.get?_put] at hoperand
          split at hoperand
          · obtain rfl := Option.some.inj hoperand
            exact fun _ => hcondition.mul hchild
          · have hold := hbound text operand hoperand
            cases operand with
            | datum => trivial
            | diagram b => exact fun howner => (hold (howner.trans hspace.owner)).mono hspace

/-- The diagram computed for a node is canonical if those of its children are. -/
theorem canonical_of_compute (hs : s.Canonical)
    (hpresence : ∀ c ∈ g.children i, (g.node c).presence.Canonical s.space)
    (hcached : ∀ c ∈ g.children i, ∀ handle, s.cache.get? (g.id c) = some handle →
      handle.diagram.Canonical s.space)
    {d : Diagram} (h : compute g i s = (.ok d, after)) : d.Canonical after.space := by
  have hafter := Canonical.kept.compute i hs
  rw [h] at hafter
  cases computed_of_compute h with
  | solved _ hbind _ hsolve =>
    have hask := Canonical.kept.ask s (g.node i).model hs
    have hbound := canonical_of_bindChildren hask hpresence hcached (by intro _ _ h; cases h) hbind
    obtain ⟨hraw, _⟩ := Expression.solve_ok hbound hsolve
    exact hafter.featureModel.mul hraw

/-- Completing a node leaves the cache as it is or puts the diagram computed for the node into it. -/
lemma entries_complete (g : Graph) (i : Fin g.size) (s : Session) :
    (complete g i s).2.cache.entries = s.cache.entries ∨
      ∃ d mid, compute g i s = (.ok d, mid) ∧ (complete g i s).2.space = mid.space ∧
        (complete g i s).2.cache.entries = s.cache.entries ++ [(g.id i, ⟨mid.supply, d⟩)] := by
  have hcache := cache_compute g i s
  generalize hout : complete g i s = out
  obtain ⟨r, after⟩ := out
  cases completed_of_complete hout with
  | failed hcompute =>
    rw [hcompute] at hcache
    exact .inl (congrArg Cache.entries hcache)
  | refused hcompute =>
    rw [hcompute] at hcache
    exact .inl (congrArg Cache.entries hcache)
  | @recorded d mid _ hcompute hput =>
    obtain ⟨_, rfl⟩ := Cache.put_ok hput
    rw [hcompute] at hcache
    have hcache : mid.cache = s.cache := hcache
    refine .inr ⟨d, mid, hcompute, rfl, ?_⟩
    rw [← hcache]
    rfl

end Compute

/-! Sessions in a feature space -/

/-- Whether a session in a space that came from another one is canonical, and so are its cached diagrams. -/
structure Tidy (base : FeatureSpace) (s : Session) : Prop where
  extends_base : base.Extends s.space
  canonical : s.Canonical
  cached : ∀ e ∈ s.cache.entries, e.2.diagram.Canonical s.space

namespace Tidy

variable {base : FeatureSpace} {s : Session} {g : Graph}

/-- A session stays tidy with its trace emptied. -/
lemma untraced (hs : s.Tidy base) : Tidy base { s with trace := .empty } :=
  ⟨hs.extends_base, Canonical.kept.untraced s hs.canonical, hs.cached⟩

/-- A session stays tidy under a lookup. -/
lemma look (hs : s.Tidy base) (id : String) : (s.look id).2.Tidy base := by
  have hcanonical := Canonical.kept.look s id hs.canonical
  obtain ⟨cache, hits, hlook, hentries⟩ := s.look_snd id
  rw [hlook] at hcanonical ⊢
  refine ⟨hs.extends_base, hcanonical, ?_⟩
  show ∀ e ∈ cache.entries, e.2.diagram.Canonical s.space
  rw [hentries]
  exact hs.cached

/-- A session stays tidy when a node is completed. -/
lemma complete (hpresence : ∀ c, (g.node c).presence.Canonical base) (hs : s.Tidy base) (i : Fin g.size) :
    (complete g i s).2.Tidy base := by
  have hspace := (kept_extends s.space).complete i (.refl _)
  refine ⟨hs.extends_base.trans hspace, Canonical.kept.complete i hs.canonical, ?_⟩
  rcases entries_complete g i s with hsame | ⟨d, mid, hcompute, hmid, hmore⟩
  · rw [hsame]
    exact fun e he => (hs.cached e he).mono hspace
  · rw [hmore]
    intro e he
    rcases List.mem_append.1 he with he | he
    · exact (hs.cached e he).mono hspace
    · obtain rfl := List.mem_singleton.1 he
      rw [hmid]
      exact canonical_of_compute hs.canonical (fun c _ => (hpresence c).mono hs.extends_base)
        (fun c _ handle hhandle => hs.cached _ (mem_entries_of_get? hhandle)) hcompute

/-- An evaluation leaves a session tidy, whether it succeeds or fails. -/
theorem evaluateNode (hpresence : ∀ c, (g.node c).presence.Canonical base) (hs : s.Tidy base) (i : Fin g.size) :
    (evaluateNode g i s).2.Tidy base :=
  evaluateNode_keeps (Q := fun _ => True) (fun hs => hs.untraced) (fun _ id hs => hs.look id)
    (fun i _ _ hs => hs.complete hpresence i) (fun _ _ _ _ => trivial) trivial hs

/-- A session stays tidy when several nodes are evaluated. -/
lemma evaluateMany (hpresence : ∀ c, (g.node c).presence.Canonical base) (nodes : List (Fin g.size))
    (results : List (String × Handle)) (hs : s.Tidy base) : (evaluateMany g nodes results s).2.Tidy base := by
  induction nodes generalizing results s with
  | nil => exact hs
  | cons i rest ih =>
    have hnode := hs.evaluateNode hpresence i
    rw [Session.evaluateMany]
    split
    · rename_i he
      rwa [he] at hnode
    · rename_i he
      rw [he] at hnode
      exact ih _ hnode

/-- A session stays tidy when it is asked for a presence condition. -/
lemma presence (hs : s.Tidy base) {α : Type} (node : Node α) : (s.presence node).2.Tidy base := by
  have hspace := (kept_extends s.space).presence s node (.refl _)
  refine ⟨hs.extends_base.trans hspace, hs.canonical.presence node, ?_⟩
  rw [cache_presence]
  exact fun e he => (hs.cached e he).mono hspace

/-- A session stays tidy when it forgets everything. -/
lemma clear (hs : s.Tidy base) : s.clear.Tidy base := by
  refine ⟨hs.extends_base, hs.canonical.clear, ?_⟩
  intro e he
  cases he

end Tidy

/-- Whether a call gives a diagram as the presence condition of a node. -/
def Call.Gives (call : Call) (d : Diagram) : Prop :=
  match call with
  | evaluate g _ => ∃ c handle, (g.node c).presence = .diagram handle ∧ handle.diagram = d
  | evaluateNode g _ => ∃ c handle, (g.node c).presence = .diagram handle ∧ handle.diagram = d
  | evaluateMany g _ => ∃ c handle, (g.node c).presence = .diagram handle ∧ handle.diagram = d
  | _ => False

namespace Tidy

variable {base : FeatureSpace} {s : Session} {g : Graph}

/-- Presence conditions are canonical if all diagrams that were given for them are. -/
lemma presence_of_given
    (h : ∀ d, (∃ c handle, (g.node c).presence = .diagram handle ∧ handle.diagram = d) → d.owner = base.owner →
      d.Canonical base) (c : Fin g.size) : (g.node c).presence.Canonical base := by
  cases hp : (g.node c).presence with
  | formula => trivial
  | diagram handle => exact h handle.diagram ⟨c, handle, hp, rfl⟩

/-- A call leaves a session tidy if the diagrams of the space that it gives are canonical. -/
theorem respond (hs : s.Tidy base) (call : Call)
    (hgiven : ∀ d, call.Gives d → d.owner = base.owner → d.Canonical base) : (call.respond s).2.Tidy base := by
  cases call with
  | evaluate g i =>
    have h : (s.evaluate g i).2.Tidy base := by
      rw [Session.evaluate]
      split
      · exact hs
      · exact hs.evaluateNode (presence_of_given hgiven) i
    simp only [Call.respond]
    split <;> rename_i he <;> rwa [he] at h
  | evaluateNode g i =>
    have h := hs.evaluateNode (presence_of_given hgiven) i
    simp only [Call.respond]
    split <;> rename_i he <;> rwa [he] at h
  | evaluateMany g nodes =>
    have h := hs.evaluateMany (presence_of_given hgiven) nodes []
    simp only [Call.respond]
    split <;> rename_i he <;> rwa [he] at h
  | presence g i => exact hs.presence (g.node i)
  | declare names =>
    have hspace := s.space.declare_extends_self names
    exact ⟨hs.extends_base.trans hspace, hs.canonical.declare names, fun e he => (hs.cached e he).mono hspace⟩
  | reset =>
    refine ⟨hs.extends_base, ⟨hs.canonical.nodup, hs.canonical.featureModel, hs.canonical.presences⟩, ?_⟩
    intro e he
    cases he
  | clear => exact hs.clear
  | close =>
    simp only [Call.respond, Session.close]
    split
    · exact hs
    · exact ⟨hs.clear.extends_base, ⟨hs.clear.canonical.nodup, hs.clear.canonical.featureModel,
        hs.clear.canonical.presences⟩, hs.clear.cached⟩

end Tidy

end Session

end ProductLine
