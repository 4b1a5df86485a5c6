import Mathlib.Tactic.Common
import ProductLine.Proofs.Session.Cycles
import ProductLine.Proofs.Session.Presence

/-!
# What a failed evaluation leaves

An evaluation may fail after it has declared features, kept presence conditions and computed nodes. What it
leaves in the cache is what was there and one entry for each node that it completed (`added_evaluateNode`),
and nothing for a node that it reached without completing it (`Walk.not_cached_of_mem_path`). Evaluating once
more does not come to another end: it passes over what is cached, reaches the node that failed with nothing
left below it, and fails there with the same error (`visit_again`, `evaluateNode_again`).
-/

namespace ProductLine

namespace Session

variable {g : Graph} {i : Fin g.size} {s t mid after : Session} {e : Error}

/-! Nothing computed -/

/-- Whether nothing was computed between two sessions. -/
structure Idle (s after : Session) : Prop where
  entries : after.cache.entries = s.cache.entries
  evaluated : after.trace.evaluated = s.trace.evaluated

namespace Idle

/-- Nothing is computed between a session and itself. -/
lemma refl (s : Session) : Idle s s := ⟨rfl, rfl⟩

/-- Nothing is computed in two runs if nothing is in either. -/
lemma trans (h : Idle s mid) (h' : Idle mid after) : Idle s after :=
  ⟨h'.entries.trans h.entries, h'.evaluated.trans h.evaluated⟩

/-- Where nothing is computed the same ids are cached. -/
lemma ids (h : Idle s after) : after.cache.ids = s.cache.ids := by
  rw [Cache.ids, h.entries]
  rfl

/-- A lookup computes nothing. -/
lemma look (h : Idle s after) (id : String) : Idle s (after.look id).2 := by
  obtain ⟨cache, hits, hlook, hentries⟩ := after.look_snd id
  rw [hlook]
  exact ⟨hentries.trans h.entries, h.evaluated⟩

/-- Scanning children computes nothing. -/
lemma scan {path : List String} {cs pending : List (Fin g.size)} {r : Except Error (List (Fin g.size))}
    (h : scan g path cs pending s = (r, after)) : Idle s after := by
  have hscanned := scan_keeps (I := Idle s) (fun _ id ht => ht.look id) g path cs pending (.refl s)
  rwa [h] at hscanned

end Idle

/-- Computing a node puts nothing into the cache. -/
lemma idle_compute (g : Graph) (i : Fin g.size) (s : Session) : Idle s (compute g i s).2 := by
  refine ⟨by rw [cache_compute], ?_⟩
  obtain ⟨space, presences, warnings, supply, hbound⟩ :=
    bindChildren_snd (g.id i) (g.children i) [] (s.ask (g.node i).model).2
  generalize hout : compute g i s = out
  obtain ⟨r, after⟩ := out
  cases computed_of_compute hout with
  | unchecked => rfl
  | unbound _ hbind =>
    rw [hbind] at hbound
    exact congrArg (·.trace.evaluated) hbound
  | unread _ hbind =>
    rw [hbind] at hbound
    exact congrArg (·.trace.evaluated) hbound
  | unsolved _ hbind =>
    rw [hbind] at hbound
    exact congrArg (·.trace.evaluated) hbound
  | solved _ hbind =>
    rw [hbind] at hbound
    exact congrArg (·.trace.evaluated) hbound

/-- Completing a node fails with nothing computed, or puts one result for it into the cache. -/
inductive Attempted (g : Graph) (i : Fin g.size) (s : Session) : Except Error Unit → Session → Prop where
  | failed {e : Error} {after : Session} (hidle : Idle s after) : Attempted g i s (.error e) after
  | recorded {handle : Handle} {after : Session} (hnew : g.id i ∉ s.cache.ids)
      (hentries : after.cache.entries = s.cache.entries ++ [(g.id i, handle)])
      (hevaluated : after.trace.evaluated = s.trace.evaluated ++ [g.id i]) : Attempted g i s (.ok ()) after

/-- How completing a node changes the cache. -/
lemma attempted_of_complete {r : Except Error Unit} (h : complete g i s = (r, after)) :
    Attempted g i s r after := by
  have hidle := idle_compute g i s
  cases completed_of_complete h with
  | failed hcompute =>
    rw [hcompute] at hidle
    exact .failed hidle
  | refused hcompute =>
    rw [hcompute] at hidle
    exact .failed ⟨hidle.entries, hidle.evaluated⟩
  | @recorded d mid cache hcompute hput =>
    rw [hcompute] at hidle
    obtain ⟨hnew, rfl⟩ := Cache.put_ok hput
    have hentries : mid.cache.entries = s.cache.entries := hidle.entries
    have hevaluated : mid.trace.evaluated = s.trace.evaluated := hidle.evaluated
    rw [Cache.ids, hentries] at hnew
    have hmore := congrArg (· ++ [(g.id i, Handle.mk mid.supply d)]) hentries
    exact .recorded hnew hmore (congrArg (· ++ [g.id i]) hevaluated)

/-! What was computed -/

/-- Whether the cache of a session is that of an earlier one with results for the ids that were evaluated
since, which are those of nodes below a root. -/
structure Added (g : Graph) (root : Fin g.size) (s after : Session) : Prop where
  entries : ∃ new, after.cache.entries = s.cache.entries ++ new ∧ new.map Prod.fst = after.trace.evaluated
  nodup : after.trace.evaluated.Nodup
  fresh : ∀ id ∈ after.trace.evaluated, id ∉ s.cache.ids
  reached : ∀ id ∈ after.trace.evaluated, ∃ i, g.Reaches root i ∧ g.id i = id

namespace Added

variable {root : Fin g.size}

/-- The ids evaluated are added to those cached, in order. -/
lemma ids (h : Added g root s after) : after.cache.ids = s.cache.ids ++ after.trace.evaluated := by
  obtain ⟨new, hentries, hids⟩ := h.entries
  rw [Cache.ids, hentries, List.map_append, hids]
  rfl

/-- What was added stays so if nothing more is computed. -/
lemma idle (h : Added g root s mid) (hidle : Idle mid after) : Added g root s after := by
  obtain ⟨hentries, hevaluated⟩ := hidle
  refine ⟨?_, ?_, ?_, ?_⟩
  · rw [hentries, hevaluated]
    exact h.entries
  · rw [hevaluated]
    exact h.nodup
  · rw [hevaluated]
    exact h.fresh
  · rw [hevaluated]
    exact h.reached

/-- Completing a node below the root adds its result, if it has one. -/
lemma complete (hi : g.Reaches root i) (h : Added g root s mid) : Added g root s (complete g i mid).2 := by
  generalize hout : Session.complete g i mid = out
  obtain ⟨r, after⟩ := out
  cases attempted_of_complete hout with
  | failed hidle => exact h.idle hidle
  | @recorded handle _ hnew hentries hevaluated =>
    rw [h.ids, List.mem_append, not_or] at hnew
    obtain ⟨new, hmid, hids⟩ := h.entries
    refine ⟨⟨new ++ [(g.id i, handle)], ?_, ?_⟩, ?_, ?_, ?_⟩
    · rw [hentries, hmid, List.append_assoc]
    · rw [List.map_append, hids, hevaluated]
      rfl
    · rw [hevaluated]
      exact nodup_append_id h.nodup hnew.2
    · rw [hevaluated]
      intro id hid
      rcases List.mem_append.1 hid with hid | hid
      · exact h.fresh id hid
      · obtain rfl := List.mem_singleton.1 hid
        exact hnew.1
    · rw [hevaluated]
      intro id hid
      rcases List.mem_append.1 hid with hid | hid
      · exact h.reached id hid
      · obtain rfl := List.mem_singleton.1 hid
        exact ⟨i, hi, rfl⟩

end Added

/-- Whether it succeeds or fails, an evaluation adds results for exactly the ids that it evaluated to the cache. -/
theorem added_evaluateNode (g : Graph) (root : Fin g.size) (s : Session) :
    Added g root s (evaluateNode g root s).2 := by
  have hstart : Added g root s { s with trace := .empty } := by
    refine ⟨⟨[], by simp, rfl⟩, .nil, ?_, ?_⟩
    · intro id hid
      cases hid
    · intro id hid
      cases hid
  -- the trace of the last evaluation is dropped first, so the session may as well have none
  exact evaluateNode_keeps (Q := g.Reaches root) (s := { s with trace := .empty }) id
    (fun _ id ht => ht.idle ((Idle.refl _).look id)) (fun _ _ hi ht => ht.complete hi)
    (fun _ hi _ hc => hi.tail hc) .refl hstart

/-! Reached and not completed -/

end Session

namespace Walk

open Session

variable {g : Graph} {s after : Session} {w : Walk g}

/-- Whether no id on the path of a walk was put into the cache, which has grown. -/
structure Held (s : Session) (w : Walk g) : Prop where
  nodup : w.path.Nodup
  apart : ∀ id ∈ w.path, id ∉ w.session.cache.ids
  grown : ∀ id ∈ s.cache.ids, id ∈ w.session.cache.ids

/-- What is put into the cache is taken off the path. -/
lemma Held.finish (h : w.Held s) {id : String} (hids : after.cache.ids = w.session.cache.ids ++ [id])
    (tasks : List (Task g)) : Walk.Held s ⟨w.path.erase id, tasks, after⟩ := by
  refine ⟨h.nodup.erase _, ?_, ?_⟩
  · intro other hother hmem
    obtain ⟨hne, hpath⟩ := h.nodup.mem_erase_iff.1 hother
    have hmem : other ∈ after.cache.ids := hmem
    rw [hids] at hmem
    rcases List.mem_append.1 hmem with hmem | hmem
    · exact h.apart other hpath hmem
    · exact hne (List.mem_singleton.1 hmem)
  · intro other hother
    show other ∈ after.cache.ids
    rw [hids]
    exact List.mem_append_left _ (h.grown other hother)

/-- What comes to the path is not in the cache. -/
lemma Held.extend (h : w.Held s) {id : String} (hnew : id ∉ w.session.cache.ids)
    (hids : after.cache.ids = w.session.cache.ids) (tasks : List (Task g)) :
    Walk.Held s ⟨extend w.path id, tasks, after⟩ := by
  refine ⟨?_, ?_, ?_⟩
  · show (Walk.extend w.path id).Nodup
    rw [Walk.extend]
    split
    · exact h.nodup
    · exact nodup_append_id h.nodup ‹_›
  · intro other hother hcached
    have hother : other ∈ Walk.extend w.path id := hother
    have hmem : other ∈ after.cache.ids := hcached
    rw [hids] at hmem
    rw [Walk.extend] at hother
    split at hother
    · exact h.apart other hother hmem
    · rcases List.mem_append.1 hother with hother | hother
      · exact h.apart other hother hmem
      · obtain rfl := List.mem_singleton.1 hother
        exact hnew hmem
  · intro other hother
    show other ∈ after.cache.ids
    rw [hids]
    exact h.grown other hother

/-- No id on the path of a walk is cached after a step, either. -/
lemma Held.step (h : w.Held s) {next : Walk g} (hstep : w.Step next) : next.Held s := by
  cases hstep with
  | @perform path task rest s₁ next hperform =>
    cases task with
    | finish i =>
      simp only [perform] at hperform
      split at hperform
      · cases hperform
      · rename_i s₂ hcomplete
        cases hperform
        cases attempted_of_complete hcomplete with
        | recorded hnew hentries =>
          refine h.finish ?_ rest
          rw [Cache.ids, hentries, List.map_append]
          rfl
    | reach i =>
      simp only [perform] at hperform
      split at hperform
      · cases hperform
        exact ⟨h.nodup, h.apart, h.grown⟩
      · rename_i hcached
        split at hperform
        · cases hperform
        · rename_i pending s₂ hscan
          cases hperform
          exact h.extend (fun hmem => hcached (Cache.contains_iff.2 hmem)) (Idle.scan hscan).ids _

/-- A walk starts with nothing on its path. -/
lemma Held.of_start (root : Fin g.size) (s : Session) : (Walk.start root s).Held s :=
  ⟨.nil, by simp [start], fun _ hid => hid⟩

/-- On the way of an evaluation, no id on the path is cached. -/
theorem held_of_steps (h : Relation.ReflTransGen Step (.start root s) w) : w.Held s := by
  induction h with
  | refl => exact .of_start root s
  | tail _ hstep ih => exact ih.step hstep

end Walk

namespace Session

variable {g : Graph} {root i : Fin g.size} {s t mid after : Session} {e : Error}

/-- An id that an evaluation reached is cached afterwards only if it was completed. -/
theorem evaluated_of_mem_path (hlook : { s with trace := .empty }.look (g.id root) = (none, mid)) {w : Walk g}
    (hw : Relation.ReflTransGen Walk.Step (.start root mid) w) {id : String} (hid : id ∈ w.path)
    (hmem : id ∈ (evaluateNode g root s).2.cache.ids) : id ∈ (evaluateNode g root s).2.trace.evaluated := by
  have hheld := Walk.held_of_steps hw
  have hids := ids_look { s with trace := .empty } (g.id root)
  rw [hlook] at hids
  rw [(added_evaluateNode g root s).ids] at hmem
  rcases List.mem_append.1 hmem with hold | hnew
  · -- it was not cached when it stood on the path, so it was not cached before either
    refine absurd (hheld.grown id ?_) (hheld.apart id hid)
    rw [show mid.cache.ids = s.cache.ids from hids]
    exact hold
  · exact hnew

/-! Once more -/

/-- Whether two sessions differ in what they count, trace and warn about at most, and in declared features. -/
structure Alike (s t : Session) : Prop where
  checker : t.checker = s.checker
  owner : t.space.owner = s.space.owner
  entries : t.cache.entries = s.cache.entries
  presences : t.presences = s.presences

namespace Alike

/-- A session is like itself. -/
lemma refl (s : Session) : Alike s s := ⟨rfl, rfl, rfl, rfl⟩

/-- The trace does not matter for being alike. -/
lemma untraced (h : Alike s t) : Alike s { t with trace := .empty } := ⟨h.checker, h.owner, h.entries, h.presences⟩

/-- Lookups do not matter for being alike. -/
lemma look (h : Alike s t) (id : String) : Alike s (t.look id).2 := by
  obtain ⟨cache, hits, hlook, hentries⟩ := t.look_snd id
  rw [hlook]
  exact ⟨h.checker, h.owner, hentries.trans h.entries, h.presences⟩

/-- Scanning children does not matter for being alike. -/
lemma scan {path : List String} {cs pending : List (Fin g.size)} {r : Except Error (List (Fin g.size))}
    (h : Alike s t) (hscan : scan g path cs pending t = (r, after)) : Alike s after := by
  have hscanned := scan_keeps (I := Alike s) (fun _ id ht => ht.look id) g path cs pending h
  rwa [hscan] at hscanned

/-- Sessions that are alike have the same ids cached. -/
lemma ids (h : Alike s t) : t.cache.ids = s.cache.ids := by
  rw [Cache.ids, h.entries]
  rfl

end Alike

/-- Presence conditions that are kept are kept on. -/
lemma kept_lookup (text : String) (handle : Handle) : Kept fun s => s.presences.lookup text = some handle where
  untraced _ hs := hs
  look s id hs := by
    obtain ⟨cache, hits, hlook, _⟩ := s.look_snd id
    rw [hlook]
    exact hs
  ask _ _ hs := hs
  presence s node hs := by
    rw [presence]
    split
    · exact hs
    · split
      · exact hs
      · generalize hout : s.encodePresence node.id _ = out
        obtain ⟨r, after⟩ := out
        cases encoded_of_encodePresence hout with
        | refused => exact hs
        | kept => exact List.lookup_append.trans (by rw [hs]; rfl)
  make _ _ hs := hs
  record hs _ := hs

/-- A presence condition that was given is given once more as long as the session keeps what it kept. -/
lemma presence_again {α : Type} {node : Node α} {handle : Handle} (h : s.presence node = (.ok handle, mid))
    (howner : t.space.owner = s.space.owner)
    (hkept : ∀ text kept, mid.presences.lookup text = some kept → t.presences.lookup text = some kept) :
    t.presence node = (.ok handle, t) := by
  rw [presence] at h ⊢
  split at h
  · split at h
    · rename_i given _ hgiven
      cases h
      rw [howner, if_pos hgiven]
    · cases h
  · rename_i text _
    have hlookup : t.presences.lookup text = some handle := by
      refine hkept text handle ?_
      split at h
      · rename_i hfound
        cases h
        exact hfound
      · rename_i hnone
        cases encoded_of_encodePresence h with
        | kept =>
          show (s.presences ++ [(text, handle)]).lookup text = some handle
          rw [List.lookup_append, hnone]
          simp
    rw [hlookup]

/-- A presence condition that was refused is refused once more, for the same reason. -/
lemma presence_error_again {α : Type} {node : Node α} (h : s.presence node = (.error e, mid))
    (howner : t.space.owner = s.space.owner) (hsame : t.presences = mid.presences) :
    (t.presence node).1 = .error e := by
  rw [presence] at h ⊢
  split at h
  · split at h
    · cases h
    · rename_i hforeign
      cases h
      rw [howner, if_neg hforeign]
  · rename_i text _
    split at h
    · cases h
    · rename_i hnone
      cases encoded_of_encodePresence h with
      | refused hencode =>
        have herror := FeatureSpace.encode_eq_error.1 (congrArg Prod.fst hencode)
        have hnone' : t.presences.lookup text = none := by rw [hsame]; exact hnone
        rw [hnone', encodePresence]
        have hrefused : (t.space.encode text).1 = .error e := FeatureSpace.encode_eq_error.2 herror
        generalize t.space.encode text = out at hrefused
        obtain ⟨r, space⟩ := out
        obtain rfl : r = .error e := hrefused
        rfl

/-- Binding children comes to the same result once more. -/
lemma bindChildren_again {parent : String} {cs : List (Fin g.size)} {bindings : Expression.Bindings}
    {r : Except Error Expression.Bindings} (h : bindChildren g parent cs bindings s = (r, after))
    (howner : t.space.owner = s.space.owner) (hentries : t.cache.entries = s.cache.entries)
    (hsame : t.presences = after.presences) : (bindChildren g parent cs bindings t).1 = r := by
  induction cs generalizing bindings s with
  | nil =>
    cases h
    rfl
  | cons c rest ih =>
    have hget : t.cache.get? (g.id c) = s.cache.get? (g.id c) := by rw [Cache.get?, hentries]; rfl
    rw [bindChildren] at h ⊢
    rw [hget]
    split at h
    · rename_i hnone
      cases h
      rfl
    · rename_i reliability hsome
      have hspace := (kept_extends s.space).presence s (g.node c) (.refl _)
      have hcache := cache_presence s (g.node c)
      split at h
      · rename_i hp
        cases h
        have hagain := presence_error_again hp howner hsame
        generalize t.presence (g.node c) = out at hagain
        obtain ⟨r, t'⟩ := out
        obtain rfl : r = _ := hagain
        rfl
      · rename_i condition mid hp
        rw [hp] at hspace hcache
        -- the first run went on from here, so it kept what was kept by now
        have hkept : ∀ text kept, mid.presences.lookup text = some kept → t.presences.lookup text = some kept := by
          intro text kept hlookup
          have hafter := (kept_lookup text kept).bindChildren parent rest
            (bindings.put (g.id c) (.diagram (condition.diagram.mul reliability.diagram))) hlookup
          rw [h] at hafter
          rw [hsame]
          exact hafter
        rw [presence_again hp howner hkept]
        refine ih h (howner.trans hspace.owner.symm) ?_
        rw [show mid.cache = s.cache from hcache]
        exact hentries

/-- The children of a node bound once more for its computation: the checker gives the same text and the binding
comes to the same result, in a space with the same owner. -/
lemma bindings_again {text : String} {r : Except Error Expression.Bindings}
    (howner : t.space.owner = s.space.owner) (hentries : t.cache.entries = s.cache.entries)
    (hlike : Alike after t) (hchecker : s.checker (g.node i).model = .ok text)
    (hbind : bindChildren g (g.id i) (g.children i) [] (s.ask (g.node i).model).2 = (r, after)) :
    ∃ again, t.checker (g.node i).model = .ok text ∧ again.space.owner = after.space.owner ∧
      bindChildren g (g.id i) (g.children i) [] (t.ask (g.node i).model).2 = (r, again) := by
  obtain ⟨_, _, _, _, hafter⟩ := bindChildren_snd (g.id i) (g.children i) [] (s.ask (g.node i).model).2
  rw [hbind] at hafter
  have hsame : after.checker = s.checker := by
    rw [show after = _ from hafter]
    rfl
  have hagain := bindChildren_again (t := (t.ask (g.node i).model).2) hbind howner hentries hlike.presences
  have hgrown := (kept_extends t.space).bindChildren (g.id i) (g.children i) []
    ((kept_extends t.space).ask t (g.node i).model (.refl _))
  generalize bindChildren g (g.id i) (g.children i) [] (t.ask (g.node i).model).2 = out at hagain hgrown
  obtain ⟨r', again⟩ := out
  obtain rfl : r' = r := hagain
  refine ⟨again, ?_, hgrown.owner.trans hlike.owner, rfl⟩
  rw [hlike.checker, hsame]
  exact hchecker

/-- The computation of a node that failed fails once more, for the same reason. -/
lemma compute_again (h : compute g i s = (.error e, after)) (hlike : Alike after t) :
    (compute g i t).1 = .error e := by
  have hcache := cache_compute g i s
  have hspace := (kept_extends s.space).compute i (.refl _)
  rw [h] at hcache hspace
  have howner : t.space.owner = s.space.owner := hlike.owner.trans hspace.owner
  have hentries : t.cache.entries = s.cache.entries := hlike.entries.trans (congrArg Cache.entries hcache)
  rw [compute]
  -- the second run passes the same steps as the first, up to the one that failed
  cases computed_of_compute h with
  | unchecked hchecker =>
    have hchecker' : t.checker (g.node i).model = .error e := by
      rw [hlike.checker]
      exact hchecker
    simp only [ask, hchecker']
  | unbound hchecker hbind =>
    obtain ⟨again, hchecker', _, hbind'⟩ := bindings_again howner hentries hlike hchecker hbind
    simp only [ask] at hbind'
    simp only [ask, hchecker', hbind']
  | unread hchecker hbind hparse =>
    obtain ⟨again, hchecker', _, hbind'⟩ := bindings_again howner hentries hlike hchecker hbind
    simp only [ask] at hbind'
    simp only [ask, hchecker', hbind', hparse]
  | unsolved hchecker hbind hparse hsolve =>
    obtain ⟨again, hchecker', howner', hbind'⟩ := bindings_again howner hentries hlike hchecker hbind
    simp only [ask] at hbind'
    simp only [ask, hchecker', hbind', hparse, howner', hsolve]

/-- A node that could not be completed cannot be completed once more, for the same reason. -/
lemma complete_again (hnew : g.id i ∉ s.cache.ids) (h : complete g i s = (.error e, after))
    (hlike : Alike after t) : ∃ again, complete g i t = (.error e, again) ∧ Idle t again := by
  have hfirst : compute g i s = (.error e, after) := by
    cases completed_of_complete h with
    | failed hcompute => exact hcompute
    | @refused d _ mid hcompute hput =>
      have hcache := cache_compute g i s
      rw [hcompute] at hcache
      have hcache : mid.cache = s.cache := hcache
      rw [hcache, Cache.put, if_neg (fun hmem => hnew (Cache.contains_iff.1 hmem))] at hput
      cases hput
  have hagain := compute_again hfirst hlike
  have hidle := idle_compute g i t
  generalize hout : compute g i t = out at hagain hidle
  obtain ⟨r, again⟩ := out
  obtain rfl : r = .error e := hagain
  exact ⟨again, by simp only [complete, hout], hidle⟩

/-- Looking children up fails once more at the child on the path. -/
lemma scan_again {path : List String} {cs pending : List (Fin g.size)}
    (h : scan g path cs pending s = (.error e, after)) (t : Session) (pending' : List (Fin g.size)) :
    ∃ again, scan g path cs pending' t = (.error e, again) ∧ Idle t again := by
  have hresult : (scan g path cs pending' t).1 = .error e := by
    induction cs generalizing pending pending' s t with
    | nil => cases h
    | cons c rest ih =>
      unfold scan at h ⊢
      split at h
      · rename_i hc
        cases h
        rw [if_pos hc]
      · rename_i hc
        rw [if_neg hc]
        split at h
        · split
          · exact ih h _ _
          · exact ih h _ _
        · split
          · exact ih h _ _
          · exact ih h _ _
  generalize hout : scan g path cs pending' t = out at hresult
  obtain ⟨r, again⟩ := out
  obtain rfl : r = .error e := hresult
  exact ⟨again, rfl, .scan hout⟩

/-- If no child stands on the path, looking the children up succeeds in any session. -/
lemma exists_scan {path : List String} {cs : List (Fin g.size)} (h : ∀ c ∈ cs, g.id c ∉ path) (t : Session)
    (pending : List (Fin g.size)) : ∃ result again, scan g path cs pending t = (.ok result, again) := by
  generalize hout : scan g path cs pending t = out
  obtain ⟨e | result, again⟩ := out
  · obtain ⟨c, hc, hmem, _⟩ := scan_error hout
    exact absurd hmem (h c hc)
  · exact ⟨result, again, rfl⟩

/-- Whether a node is not cached and its evaluation fails in every session alike, with nothing computed and whatever
comes after it. -/
structure Failing (g : Graph) (path : List String) (e : Error) (after : Session) (i : Fin g.size) : Prop where
  new : g.id i ∉ after.cache.ids
  again : ∀ t, Alike after t → ∀ rest, ∃ again, visit g path (i :: rest) t = (.error e, again) ∧ Idle t again

/-- How the evaluation of several nodes fails once more: those before the one that failed are cached by now,
and this one fails with nothing computed. -/
structure Blocked (g : Graph) (path : List String) (nodes : List (Fin g.size)) (e : Error) (after : Session) :
    Prop where
  apart : Graph.Apart path after.cache.ids
  failing : ∃ front i rest, nodes = front ++ i :: rest ∧ (∀ j ∈ front, g.id j ∈ after.cache.ids) ∧
    Failing g path e after i

/-- An evaluation only adds to the cache. -/
lemma mem_ids_visit {path : List String} {nodes : List (Fin g.size)} {r : Except Error Unit}
    (h : visit g path nodes s = (r, after)) {id : String} (hid : id ∈ s.cache.ids) : id ∈ after.cache.ids := by
  have hvisited : id ∈ (visit g path nodes s).2.cache.ids := by
    refine visit_keeps (I := fun t => id ∈ t.cache.ids) (Q := fun _ => True) ?_ ?_ (by simp) (by simp) hid
    · intro t other ht
      rwa [ids_look]
    · intro i t _ ht
      generalize hout : complete g i t = out
      obtain ⟨r, after⟩ := out
      cases attempted_of_complete hout with
      | failed hidle => rwa [hidle.ids]
      | recorded _ hentries =>
        rw [Cache.ids, hentries, List.map_append]
        exact List.mem_append_left _ ht
  rwa [h] at hvisited

/-- Leaving out what is cached by now leaves out what was cached before. -/
lemma filter_filter_ids {cs : List (Fin g.size)} {known more : List String} (h : ∀ id ∈ known, id ∈ more) :
    (cs.filter (g.id · ∉ known)).filter (g.id · ∉ more) = cs.filter (g.id · ∉ more) := by
  rw [List.filter_filter]
  refine List.filter_congr fun c _ => ?_
  by_cases hc : g.id c ∈ known
  · simp [hc, h _ hc]
  · simp [hc]

section Blocked

variable {path : List String} {rest : List (Fin g.size)}

/-- Nodes are blocked by the first one if this fails. -/
lemma Blocked.first (hapart : Graph.Apart path after.cache.ids) (h : Failing g path e after i) :
    Blocked g path (i :: rest) e after :=
  ⟨hapart, [], i, rest, rfl, by simp, h⟩

/-- Nodes are blocked by a later one if the first one is cached. -/
lemma Blocked.cons (hi : g.id i ∈ after.cache.ids) (h : Blocked g path rest e after) :
    Blocked g path (i :: rest) e after := by
  obtain ⟨hapart, front, j, back, rfl, hfront, hj⟩ := h
  exact ⟨hapart, i :: front, j, back, rfl, List.forall_mem_cons.2 ⟨hi, hfront⟩, hj⟩

/-- A node that fails is not cached in any session alike. -/
lemma Failing.not_contains (h : g.id i ∉ after.cache.ids) (hlike : Alike after t) :
    ¬ t.cache.contains (g.id i) = true := by
  rwa [Cache.contains_iff, hlike.ids]

/-- A node whose id is on the path fails with the cycle, in every session alike. -/
lemma failing_of_closing (hnew : g.id i ∉ after.cache.ids) (hi : g.id i ∈ path) :
    Failing g path (.cycle (path.dropWhile (· ≠ g.id i) ++ [g.id i])) after i :=
  ⟨hnew, fun t hlike _ => ⟨t, visit_closing (Failing.not_contains hnew hlike) hi, .refl t⟩⟩

variable (hi : g.id i ∉ path)

include hi

/-- A node below which a cycle is found fails with it, in every session alike. -/
lemma failing_of_scan (hnew : g.id i ∉ s.cache.ids)
    (hscan : scan g (path ++ [g.id i]) (g.children i).reverse [] s = (.error e, after)) :
    Failing g path e after i := by
  have hnew' : g.id i ∉ after.cache.ids := by rwa [(Idle.scan hscan).ids]
  refine ⟨hnew', fun t hlike rest' => ?_⟩
  obtain ⟨again, hagain, hidle⟩ := scan_again hscan t []
  exact ⟨again, visit_of_scan_error (Failing.not_contains hnew' hlike) hi hagain, hidle⟩

variable {pending : List (Fin g.size)} {mid : Session}
  (hscan : scan g (path ++ [g.id i]) (g.children i).reverse [] s = (.ok pending, mid))

include hscan

/-- A node fails once more if one of its children does. -/
lemma failing_of_child (h : visit g (path ++ [g.id i]) pending mid = (.error e, after))
    (hblocked : Blocked g (path ++ [g.id i]) pending e after) : Failing g path e after i := by
  obtain ⟨hafter, front, c, back, hpending, hfront, hc, hagain⟩ := hblocked
  have hnew : g.id i ∉ after.cache.ids := hafter _ (List.mem_append_right path (List.mem_singleton_self _))
  refine ⟨hnew, fun t hlike rest' => ?_⟩
  obtain ⟨pending', t₁, hscan'⟩ := exists_scan (scan_ok hscan).2 t []
  -- those of the children that are still not cached begin with the one that fails
  obtain ⟨back', hpending'⟩ : ∃ back', pending' = c :: back' := by
    have hcached : ∀ id ∈ s.cache.ids, id ∈ t.cache.ids := by
      intro id hid
      rw [hlike.ids]
      refine mem_ids_visit h ?_
      rwa [(Idle.scan hscan).ids]
    rw [pending_eq hscan', ← filter_filter_ids hcached, ← pending_eq hscan, hpending, List.filter_append,
      hlike.ids, List.filter_eq_nil_iff.2 (by simpa using hfront), List.nil_append,
      List.filter_cons_of_pos (by simpa using hc)]
    exact ⟨_, rfl⟩
  obtain ⟨again, hagain, hidle⟩ := hagain t₁ (hlike.scan hscan') back'
  rw [visit_of_scan_ok (Failing.not_contains hnew hlike) hi hscan', hpending', hagain]
  exact ⟨again, rfl, (Idle.scan hscan').trans hidle⟩

/-- A node fails once more if its children are cached and it could not be completed. -/
lemma failing_of_complete {s₁ : Session} (hready : Ready g i s₁)
    (h : complete g i s₁ = (.error e, after)) (hidle : Idle s₁ after) : Failing g path e after i := by
  have hnew : g.id i ∉ after.cache.ids := by
    rw [hidle.ids]
    exact hready.new
  refine ⟨hnew, fun t hlike rest' => ?_⟩
  obtain ⟨pending', t₁, hscan'⟩ := exists_scan (scan_ok hscan).2 t []
  have hpending' : pending' = [] := by
    rw [pending_eq hscan', List.filter_eq_nil_iff]
    intro c hc
    simpa [hlike.ids, hidle.ids] using hready.children c hc
  obtain ⟨again, hagain, hidle'⟩ := complete_again hready.new h (hlike.scan hscan')
  rw [visit_of_scan_ok (Failing.not_contains hnew hlike) hi hscan', hpending', visit_nil, Outcome.andThen_ok,
    hagain]
  exact ⟨again, rfl, (Idle.scan hscan').trans hidle'⟩

end Blocked

/-- An evaluation that failed fails once more, with the same error and nothing computed. -/
theorem visit_again {path : List String} {nodes : List (Fin g.size)} (hapart : Graph.Apart path s.cache.ids)
    (h : visit g path nodes s = (.error e, after)) : Blocked g path nodes e after := by
  -- along the evaluation: it fails at an id that stands on the path, below a node, or at the node itself
  induction path, nodes, s using visit.induct g generalizing after with
  | case1 path s =>
    rw [visit_nil] at h
    cases h
  | case2 path i rest s hcached ih =>
    rw [visit_cached hcached] at h
    exact (ih hapart h).cons (mem_ids_visit h (Cache.contains_iff.1 hcached))
  | case3 path i rest s hcached hi =>
    rw [visit_closing hcached hi] at h
    cases h
    exact .first hapart (failing_of_closing (fun hmem => hcached (Cache.contains_iff.2 hmem)) hi)
  | case4 path i rest s hcached hi e' mid hscan =>
    rw [visit_of_scan_error hcached hi hscan] at h
    cases h
    refine .first ?_ (failing_of_scan hi (fun hmem => hcached (Cache.contains_iff.2 hmem)) hscan)
    rwa [(Idle.scan hscan).ids]
  | case5 path i rest s hcached hi pending mid hscan ih₁ ih₂ =>
    rw [visit_of_scan_ok hcached hi hscan] at h
    have hnew : g.id i ∉ s.cache.ids := fun hmem => hcached (Cache.contains_iff.2 hmem)
    have hlonger : Graph.Apart (path ++ [g.id i]) mid.cache.ids := by
      rw [(Idle.scan hscan).ids]
      exact hapart.push hnew
    rcases Outcome.andThen_eq_error.1 h with h | ⟨s₁, hvisit, h⟩
    · -- a child fails
      have hblocked := ih₁ hlonger h
      exact .first (fun id hid => hblocked.apart id (List.mem_append_left _ hid))
        (failing_of_child hi hscan h hblocked)
    · obtain ⟨below, hbelow, hprogress⟩ := visited_children hscan (visit_ok hvisit)
      rcases Outcome.andThen_eq_error.1 h with h | ⟨s₂, hcomplete, h⟩
      · -- the node fails, with all its children cached
        have hready := ready_of_explored hnew (by simp) hbelow hprogress
        have hidle : Idle s₁ after := by
          cases attempted_of_complete h with
          | failed hidle => exact hidle
        refine .first (fun id hid => ?_) (failing_of_complete hi hscan hready h hidle)
        rw [hidle.ids, hprogress.ids]
        exact hapart.append (fun id hid => hbelow.apart id (List.mem_append_left _ hid)) id hid
      · -- a node after this one fails
        have hdone := hprogress.trans (progress_complete hcomplete)
        refine (ih₂ s₂ ?_ h).cons (mem_ids_visit h ?_)
        · rw [hdone.ids]
          exact hbelow.apart_finished hapart hi
        · rw [hdone.ids]
          simp

/-- A node that was visited without an error is cached afterwards. -/
lemma exists_get?_of_visit {path : List String} {nodes : List (Fin g.size)}
    (h : visit g path nodes s = (.ok (), after)) (hi : i ∈ nodes) :
    ∃ handle, after.cache.get? (g.id i) = some handle := by
  obtain ⟨order, hsearch, hprogress⟩ := visit_ok h
  have hcached := hsearch.postOrder.mem_done i hi
  rw [← hprogress.ids] at hcached
  exact Cache.mem_ids_iff.1 hcached

/-- If the children of a node are all cached, its evaluation fails with nothing computed. -/
lemma idle_of_children (hnew : g.id i ∉ s.cache.ids) (hchildren : ∀ c ∈ g.children i, g.id c ∈ s.cache.ids)
    (h : evaluateNode g i s = (.error e, after)) : Idle { s with trace := .empty } after := by
  cases answered_of_evaluateNode h with
  | missing _ hvisit hget =>
    obtain ⟨handle, hhandle⟩ := exists_get?_of_visit hvisit List.mem_cons_self
    rw [hget] at hhandle
    cases hhandle
  | @failed _ mid _ hlook hvisit =>
    have hmid := (Idle.refl { s with trace := .empty }).look (g.id i)
    rw [hlook] at hmid
    have hids : mid.cache.ids = s.cache.ids := hmid.ids
    have hnew' : ¬ mid.cache.contains (g.id i) = true := by rwa [Cache.contains_iff, hids]
    have hpath : ∀ c ∈ (g.children i).reverse, g.id c ∉ [] ++ [g.id i] := by
      intro c hc hmem
      have hid : g.id c = g.id i := by simpa using hmem
      exact hnew (hid ▸ hchildren c (List.mem_reverse.1 hc))
    obtain ⟨pending, mid', hscan⟩ := exists_scan hpath mid []
    have hpending : pending = [] := by
      rw [pending_eq hscan, List.filter_eq_nil_iff]
      intro c hc
      simpa [hids] using hchildren c hc
    rw [visit_of_scan_ok hnew' List.not_mem_nil hscan, hpending, visit_nil, Outcome.andThen_ok] at hvisit
    rcases Outcome.andThen_eq_error.1 hvisit with hcomplete | ⟨_, _, hrest⟩
    · cases attempted_of_complete hcomplete with
      | failed hidle => exact (hmid.trans (Idle.scan hscan)).trans hidle
    · rw [visit_nil] at hrest
      cases hrest

/-- Evaluating a node that could not be evaluated once more fails with the same error, and computes nothing. -/
theorem evaluateNode_again (h : evaluateNode g i s = (.error e, after)) :
    ∃ again, evaluateNode g i after = (.error e, again) ∧ again.trace.evaluated = [] ∧
      again.cache.entries = after.cache.entries := by
  cases answered_of_evaluateNode h with
  | missing _ hvisit hget =>
    obtain ⟨handle, hhandle⟩ := exists_get?_of_visit hvisit List.mem_cons_self
    rw [hget] at hhandle
    cases hhandle
  | failed _ hvisit =>
    obtain ⟨_, front, j, back, hnodes, _, hj, hblocked⟩ := visit_again (by simp [Graph.Apart]) hvisit
    obtain ⟨rfl, rfl, rfl⟩ : front = [] ∧ j = i ∧ back = [] := by
      cases front with
      | nil => simpa [eq_comm] using hnodes
      | cons => simp at hnodes
    have hfound := look_fst { after with trace := .empty } (g.id j)
    have hnone : after.cache.get? (g.id j) = none := Cache.not_mem_ids_iff.1 hj
    have hlike := (Alike.refl after).untraced.look (g.id j)
    have hidle := (Idle.refl { after with trace := .empty }).look (g.id j)
    generalize hlook : { after with trace := .empty }.look (g.id j) = out at hfound hlike hidle
    obtain ⟨r, t⟩ := out
    obtain rfl : r = none := hfound.trans hnone
    obtain ⟨again, hagain, hidle'⟩ := hblocked t hlike []
    refine ⟨again, ?_, (hidle.trans hidle').evaluated, (hidle.trans hidle').entries⟩
    simp only [evaluateNode, hlook, Walk.run_eq_visit, hagain]

end Session

end ProductLine
