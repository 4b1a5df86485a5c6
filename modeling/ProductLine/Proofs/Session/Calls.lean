import Mathlib.Tactic.Common
import ProductLine.Proofs.FeatureSpace
import ProductLine.Proofs.Graph.Reachability
import ProductLine.Proofs.Session.Recursion

/-!
# Sessions in use

A session is used by one call after the other (`Session.Call`), some of which fail midway. What every small
step of an evaluation keeps (`Session.Kept`) is kept by an evaluation of any graph, whatever fails on the
way (`Kept.evaluateNode`), and what the other calls keep too holds whenever a session is at rest
(`Kept.after`).
-/

namespace ProductLine

namespace Session

/-- What can be asked of a session. Nodes are evaluated in a session that must be open, or in any. -/
inductive Call where
  | evaluate (g : Graph) (i : Fin g.size)
  | evaluateNode (g : Graph) (i : Fin g.size)
  | evaluateMany (g : Graph) (nodes : List (Fin g.size))
  | presence (g : Graph) (i : Fin g.size)
  | declare (names : List String)
  | reset
  | clear
  | close

/-- The reliabilities that a call returns, and the session after it. -/
def Call.respond (s : Session) : Call → List Handle × Session
  | evaluate g i =>
    match s.evaluate g i with
    | (.error _, s) => ([], s)
    | (.ok handle, s) => ([handle], s)
  | evaluateNode g i =>
    match s.evaluateNode g i with
    | (.error _, s) => ([], s)
    | (.ok handle, s) => ([handle], s)
  | evaluateMany g nodes =>
    match Session.evaluateMany g nodes [] s with
    | (.error _, s) => ([], s)
    | (.ok results, s) => (results.map Prod.snd, s)
  | presence g i => ([], (s.presence (g.node i)).2)
  | declare names => ([], { s with space := s.space.declare names })
  | reset => ([], s.reset)
  | clear => ([], s.clear)
  | close => ([], s.close)

/-- The session after some calls. -/
def after (s : Session) (calls : List Call) : Session := calls.foldl (fun s call => (call.respond s).2) s

/-! What the parts of a session do -/

/-- A session can be started with any formula as its feature model. -/
lemma exists_start (settings : Settings) (serial : Nat) {source : String} {f : Formula}
    (h : Formula.ofText source = .ok f) (checker : Checker) (builder : Option Builder) :
    ∃ s, start settings serial source checker builder = .ok s := by
  rw [Formula.ofText] at h
  split at h
  · cases h
  · rename_i normal hnormal
    split at h
    · cases h
    · rename_i hparse
      simp only [start, FeatureModel.build, FeatureSpace.encode, hnormal, hparse]
      exact ⟨_, rfl⟩

/-- A feature model that is built is the diagram of an encoded formula. -/
lemma encode_of_build {space after : FeatureSpace} {source : String} {model : FeatureModel}
    (h : FeatureModel.build space source = (.ok model, after)) :
    ∃ r, space.encode source = (.ok r, after) ∧ model.diagram = .ofRegion after.owner r := by
  rw [FeatureModel.build] at h
  split at h
  · cases h
  · rename_i r space' hencode
    split at h
    · cases h
    · cases h
      exact ⟨r, hencode, rfl⟩

/-- A session that was started has the diagram of an encoded formula as its feature model, and nothing else. -/
lemma started {settings : Settings} {serial : Nat} {source : String} {checker : Checker}
    {builder : Option Builder} {s : Session} (h : start settings serial source checker builder = .ok s) :
    (∃ r, (settings.space serial).encode source = (.ok r, s.space) ∧
      s.featureModel.diagram = .ofRegion s.space.owner r) ∧
    s.checker = checker ∧ s.cache = .empty ∧ s.presences = [] := by
  rw [start] at h
  split at h
  · cases h
  · rename_i model space hbuild
    cases h
    exact ⟨encode_of_build hbuild, rfl, rfl, rfl⟩

/-- A lookup counts, and a hit is traced. -/
lemma look_snd (s : Session) (id : String) :
    ∃ cache hits, (s.look id).2 = { s with cache := cache, trace := { s.trace with hits := hits } } ∧
      cache.entries = s.cache.entries := by
  rw [look, Cache.lookup]
  split
  · rename_i hl
    split at hl
    · cases hl
      exact ⟨_, _, rfl, rfl⟩
    · cases hl
  · rename_i hl
    split at hl
    · cases hl
    · cases hl
      exact ⟨_, s.trace.hits, rfl, rfl⟩

/-- Looking up an id leaves the feature model alone. -/
@[simp] lemma featureModel_look (s : Session) (id : String) : (s.look id).2.featureModel = s.featureModel := by
  obtain ⟨cache, hits, hl, _⟩ := s.look_snd id
  rw [hl]

/-- Looking up an id leaves the cached diagrams alone. -/
@[simp] lemma entries_look (s : Session) (id : String) : (s.look id).2.cache.entries = s.cache.entries := by
  obtain ⟨cache, hits, hl, he⟩ := s.look_snd id
  rw [hl, he]

/-- Giving a presence condition may declare features, keep a diagram and warn. -/
lemma presence_snd {α : Type} (s : Session) (node : Node α) :
    ∃ space presences warnings supply, (s.presence node).2 = { s with space, presences, warnings, supply } := by
  rw [presence]
  split
  · exact ⟨_, _, _, _, rfl⟩
  · split
    · exact ⟨_, _, _, _, rfl⟩
    · rw [encodePresence]
      split
      · exact ⟨_, _, _, _, rfl⟩
      · exact ⟨_, _, _, _, rfl⟩

/-- Asking for a presence condition leaves the feature model alone. -/
@[simp] lemma featureModel_presence {α : Type} (s : Session) (node : Node α) :
    (s.presence node).2.featureModel = s.featureModel := by
  obtain ⟨space, presences, warnings, supply, hp⟩ := s.presence_snd node
  rw [hp]

/-- Binding children does what giving their presence conditions does. -/
lemma bindChildren_snd {g : Graph} (parent : String) (cs : List (Fin g.size)) (bindings : Expression.Bindings)
    (s : Session) : ∃ space presences warnings supply,
      (bindChildren g parent cs bindings s).2 = { s with space, presences, warnings, supply } := by
  induction cs generalizing bindings s with
  | nil => exact ⟨_, _, _, _, rfl⟩
  | cons c rest ih =>
    rw [bindChildren]
    split
    · exact ⟨_, _, _, _, rfl⟩
    · obtain ⟨space, presences, warnings, supply, hp⟩ := s.presence_snd (g.node c)
      split
      · rename_i hs
        rw [hs] at hp
        exact ⟨space, presences, warnings, supply, hp⟩
      · rename_i reliability _ _ condition mid hs
        rw [hs] at hp
        obtain ⟨space', presences', warnings', supply', hrest⟩ :=
          ih (bindings.put (g.id c) (.diagram (condition.diagram.mul reliability.diagram))) mid
        exact ⟨space', presences', warnings', supply', by rw [hrest, show mid = _ from hp]⟩

/-- What is found under a key is in the list. -/
lemma mem_of_lookup {α : Type} {l : List (String × α)} {key : String} {value : α} (h : l.lookup key = some value) :
    (key, value) ∈ l := by
  obtain ⟨l₁, l₂, heq, _⟩ := List.lookup_eq_some_iff.1 h
  rw [heq]
  simp

/-- A diagram that is found is cached. -/
lemma mem_entries_of_get? {cache : Cache} {id : String} {handle : Handle} (h : cache.get? id = some handle) :
    (id, handle) ∈ cache.entries := mem_of_lookup h

/-- A lookup that finds a diagram finds the one in the cache. -/
lemma get?_of_look {s after : Session} {id : String} {handle : Handle} (h : s.look id = (some handle, after)) :
    s.cache.get? id = some handle := by
  rw [look, Cache.lookup] at h
  cases hget : s.cache.get? id with
  | none =>
    rw [hget] at h
    cases h
  | some found =>
    rw [hget] at h
    cases h
    rfl

/-- What is found in a list after an entry was added was found before or is the entry. -/
lemma lookup_concat {α : Type} {l : List (String × α)} {key other : String} {value found : α}
    (h : (l ++ [(key, value)]).lookup other = some found) :
    l.lookup other = some found ∨ other = key ∧ found = value := by
  rw [List.lookup_append] at h
  cases hold : l.lookup other with
  | some old =>
    rw [hold] at h
    exact .inl h
  | none =>
    rw [hold, Option.none_or, List.lookup_cons] at h
    split at h
    · rename_i hkey
      cases h
      exact .inr ⟨beq_iff_eq.1 hkey, rfl⟩
    · cases h

/-! How computations and evaluations can end -/

/-- How the computation of a node can end: with the checker, the children, the reading of the expression or its
solution failing, or with the masked solution. -/
inductive Computed (g : Graph) (i : Fin g.size) (s : Session) : Except Error Diagram → Session → Prop where
  | unchecked {e : Error} (hchecker : s.checker (g.node i).model = .error e) :
    Computed g i s (.error e) (s.ask (g.node i).model).2
  | unbound {text : String} {e : Error} {after : Session} (hchecker : s.checker (g.node i).model = .ok text)
      (hbind : bindChildren g (g.id i) (g.children i) [] (s.ask (g.node i).model).2 = (.error e, after)) :
    Computed g i s (.error e) after
  | unread {text : String} {bindings : Expression.Bindings} {e : Error} {after : Session}
      (hchecker : s.checker (g.node i).model = .ok text)
      (hbind : bindChildren g (g.id i) (g.children i) [] (s.ask (g.node i).model).2 = (.ok bindings, after))
      (hparse : Expression.parse text = .error e) :
    Computed g i s (.error e) after
  | unsolved {text : String} {bindings : Expression.Bindings} {expression : Expression} {e : Error}
      {after : Session} (hchecker : s.checker (g.node i).model = .ok text)
      (hbind : bindChildren g (g.id i) (g.children i) [] (s.ask (g.node i).model).2 = (.ok bindings, after))
      (hparse : Expression.parse text = .ok expression)
      (hsolve : expression.solve after.space.owner bindings = .error e) :
    Computed g i s (.error e) after
  | solved {text : String} {bindings : Expression.Bindings} {expression : Expression} {raw : Diagram}
      {after : Session}
      (hchecker : s.checker (g.node i).model = .ok text)
      (hbind : bindChildren g (g.id i) (g.children i) [] (s.ask (g.node i).model).2 = (.ok bindings, after))
      (hparse : Expression.parse text = .ok expression)
      (hsolve : expression.solve after.space.owner bindings = .ok raw) :
    Computed g i s (.ok (after.featureModel.diagram.mul raw)) after

/-- How the computation of a node ends. -/
lemma computed_of_compute {g : Graph} {i : Fin g.size} {s after : Session} {r : Except Error Diagram}
    (h : compute g i s = (r, after)) : Computed g i s r after := by
  rw [compute] at h
  split at h
  · rename_i hask
    cases h
    obtain ⟨hchecker, rfl⟩ := Prod.mk.inj hask
    exact .unchecked hchecker
  · rename_i hask
    obtain ⟨hchecker, rfl⟩ := Prod.mk.inj hask
    split at h
    · rename_i hbind
      cases h
      exact .unbound hchecker hbind
    · rename_i hbind
      split at h
      · rename_i hparse
        cases h
        exact .unread hchecker hbind hparse
      · rename_i hparse
        split at h
        · rename_i hsolve
          cases h
          exact .unsolved hchecker hbind hparse hsolve
        · rename_i hsolve
          cases h
          exact .solved hchecker hbind hparse hsolve

/-- The session after a result was put into its cache. -/
def record (s : Session) (id : String) (cache : Cache) : Session :=
  { s with
    supply := s.supply + 1
    cache := cache
    trace := { s.trace with evaluated := s.trace.evaluated ++ [id] } }

/-- How completing a node can end: its computation fails, its id has a result already, or the result is put. -/
inductive Completed (g : Graph) (i : Fin g.size) (s : Session) : Except Error Unit → Session → Prop where
  | failed {e : Error} {after : Session} (hcompute : compute g i s = (.error e, after)) :
    Completed g i s (.error e) after
  | refused {d : Diagram} {e : Error} {mid : Session} (hcompute : compute g i s = (.ok d, mid))
      (hput : mid.cache.put (g.id i) ⟨mid.supply, d⟩ = .error e) :
    Completed g i s (.error e) (mid.make d).2
  | recorded {d : Diagram} {mid : Session} {cache : Cache} (hcompute : compute g i s = (.ok d, mid))
      (hput : mid.cache.put (g.id i) ⟨mid.supply, d⟩ = .ok cache) :
    Completed g i s (.ok ()) (mid.record (g.id i) cache)

/-- How completing a node ends. -/
lemma completed_of_complete {g : Graph} {i : Fin g.size} {s after : Session} {r : Except Error Unit}
    (h : complete g i s = (r, after)) : Completed g i s r after := by
  rw [complete] at h
  split at h
  · rename_i hcompute
    cases h
    exact .failed hcompute
  · rename_i hcompute
    simp only [make] at h
    split at h
    · rename_i hput
      cases h
      exact .refused hcompute hput
    · rename_i hput
      cases h
      exact .recorded hcompute hput

/-- How an evaluation of a node can end: its id is cached, the nodes below it fail, it is computed with them, or it
is not there in the end. -/
inductive Answered (g : Graph) (i : Fin g.size) (s : Session) : Except Error Handle → Session → Prop where
  | found {handle : Handle} {after : Session}
      (hlook : { s with trace := .empty }.look (g.id i) = (some handle, after)) :
    Answered g i s (.ok handle) after
  | failed {e : Error} {mid after : Session} (hlook : { s with trace := .empty }.look (g.id i) = (none, mid))
      (hvisit : visit g [] [i] mid = (.error e, after)) :
    Answered g i s (.error e) after
  | visited {handle : Handle} {mid after : Session} (hlook : { s with trace := .empty }.look (g.id i) = (none, mid))
      (hvisit : visit g [] [i] mid = (.ok (), after)) (hget : after.cache.get? (g.id i) = some handle) :
    Answered g i s (.ok handle) after
  | missing {mid after : Session} (hlook : { s with trace := .empty }.look (g.id i) = (none, mid))
      (hvisit : visit g [] [i] mid = (.ok (), after)) (hget : after.cache.get? (g.id i) = none) :
    Answered g i s (.error (.missingResult (g.id i))) after

/-- How the evaluation of a node ends. -/
lemma answered_of_evaluateNode {g : Graph} {i : Fin g.size} {s after : Session} {r : Except Error Handle}
    (h : evaluateNode g i s = (r, after)) : Answered g i s r after := by
  rw [evaluateNode] at h
  split at h
  · rename_i hlook
    cases h
    exact .found hlook
  · rename_i hlook
    split at h
    · rename_i hrun
      cases h
      exact .failed hlook (by rw [← Walk.run_eq_visit, hrun])
    · rename_i hrun
      have hvisit := (Walk.run_eq_visit i _).symm.trans hrun
      split at h
      · rename_i hget
        cases h
        exact .visited hlook hvisit hget
      · rename_i hget
        cases h
        exact .missing hlook hvisit hget

/-- What an evaluation returns is in the cache afterwards. -/
lemma get?_of_evaluateNode {g : Graph} {i : Fin g.size} {s after : Session} {handle : Handle}
    (h : evaluateNode g i s = (.ok handle, after)) : after.cache.get? (g.id i) = some handle := by
  cases answered_of_evaluateNode h with
  | found hlook =>
    have hentries := entries_look { s with trace := .empty } (g.id i)
    rw [hlook] at hentries
    rw [Cache.get?, hentries]
    exact get?_of_look hlook
  | visited _ _ hget => exact hget

/-! Evaluations that succeed -/

/-- The lookup of an id that is not cached is counted and finds nothing. -/
lemma look_of_new {s : Session} {id : String} (h : s.cache.get? id = none) :
    ∃ cache, s.look id = (none, { s with cache }) ∧ cache.entries = s.cache.entries := by
  simp only [look, Cache.lookup, h]
  exact ⟨_, rfl, rfl⟩

section Leaf

variable {g : Graph} {i : Fin g.size} {s : Session}

/-- A node without children that is not cached can be completed if its expression has a value. -/
lemma complete_of_leaf (hchildren : g.children i = []) (hnew : s.cache.get? (g.id i) = none) {text : String}
    (hchecker : s.checker (g.node i).model = .ok text) {expression : Expression}
    (hparse : Expression.parse text = .ok expression) {raw : Diagram}
    (hsolve : expression.solve s.space.owner [] = .ok raw) :
    ∃ handle after, complete g i s = (.ok (), after) ∧
      after.cache.entries = s.cache.entries ++ [(g.id i, handle)] ∧ after.space = s.space ∧
      after.checker = s.checker ∧ after.presences = s.presences := by
  have hnot : s.cache.contains (g.id i) = false := by
    rw [Cache.contains, hnew]
    rfl
  have hcompute : compute g i s = (.ok (s.featureModel.diagram.mul raw), (s.ask (g.node i).model).2) := by
    simp only [compute, ask, hchecker, hchildren, bindChildren, hparse, hsolve]
  simp only [complete, hcompute, make, ask, Cache.put, hnot, Bool.false_eq_true, ↓reduceIte]
  exact ⟨_, _, rfl, rfl, rfl, rfl, rfl⟩

/-- Such a node is visited by completing it. -/
lemma visit_of_leaf (hchildren : g.children i = []) (hnew : s.cache.get? (g.id i) = none) {path : List String}
    (hi : g.id i ∉ path) {after : Session} (hcomplete : complete g i s = (.ok (), after)) :
    visit g path [i] s = (.ok (), after) := by
  have hscan : scan g (path ++ [g.id i]) (g.children i).reverse [] s = (.ok [], s) := by
    rw [hchildren]
    rfl
  rw [visit_of_scan_ok (by simp [Cache.contains, hnew]) hi hscan, visit_nil, Outcome.andThen_ok, hcomplete,
    Outcome.andThen_ok, visit_nil]

/-- A node without children that is not cached can be evaluated if its expression has a value. -/
lemma evaluateNode_of_leaf (hchildren : g.children i = []) (hnew : s.cache.get? (g.id i) = none) {text : String}
    (hchecker : s.checker (g.node i).model = .ok text) {expression : Expression}
    (hparse : Expression.parse text = .ok expression) {raw : Diagram}
    (hsolve : expression.solve s.space.owner [] = .ok raw) :
    ∃ handle after, evaluateNode g i s = (.ok handle, after) := by
  obtain ⟨cache, hlook, hentries⟩ := look_of_new (s := { s with trace := .empty }) hnew
  have hnew' : cache.get? (g.id i) = none := by
    rw [Cache.get?, hentries]
    exact hnew
  obtain ⟨handle, after, hcomplete, hafter, _⟩ :=
    complete_of_leaf (s := { s with trace := .empty, cache }) hchildren hnew' hchecker hparse hsolve
  have hvisit := visit_of_leaf hchildren hnew' (List.not_mem_nil (a := g.id i)) hcomplete
  have hget : after.cache.get? (g.id i) = some handle := by
    rw [Cache.get?, hafter, List.lookup_append, ← Cache.get?, hnew']
    simp
  exact ⟨handle, after, by simp only [evaluateNode, hlook, Walk.run_eq_visit, hvisit, hget]⟩

end Leaf

section Child

variable {g : Graph} {i c : Fin g.size} {s : Session} {formula name : String} {f : Formula}

/-- A node that names its only child can be completed if the child is cached and its presence condition, of which
nothing is kept, is a formula. -/
lemma complete_of_child (hchildren : g.children i = [c]) (hnew : s.cache.get? (g.id i) = none)
    (hcached : ∃ handle, s.cache.get? (g.id c) = some handle) (hkept : s.presences = [])
    (hpresence : (g.node c).presence = .formula formula) (hformula : Formula.ofText formula = .ok f)
    (hchecker : s.checker (g.node i).model = .ok name) (hparse : Expression.parse name = .ok (.name (g.id c))) :
    ∃ handle after, complete g i s = (.ok (), after) ∧
      after.cache.entries = s.cache.entries ++ [(g.id i, handle)] := by
  obtain ⟨reliability, hget⟩ := hcached
  obtain ⟨r, space, hencode⟩ := FeatureSpace.exists_encode hformula s.space
  have hnot : s.cache.contains (g.id i) = false := by
    rw [Cache.contains, hnew]
    rfl
  have hlookup : s.presences.lookup formula = none := by
    rw [hkept]
    rfl
  have hown : ((Diagram.ofRegion space.owner r).mul reliability.diagram).owner = space.owner := rfl
  have hbound : (Expression.Bindings.put [] (g.id c)
      (.diagram ((Diagram.ofRegion space.owner r).mul reliability.diagram))).get? (g.id c) =
        some (.diagram ((Diagram.ofRegion space.owner r).mul reliability.diagram)) := by
    simp [Expression.Bindings.put, Expression.Bindings.get?]
  simp only [complete, compute, ask, hchecker, hchildren, bindChildren, hget, presence, hpresence, hlookup,
    encodePresence, hencode, make, hparse, Expression.solve, hbound, Operand.toDiagram, hown, Cache.put, hnot,
    Bool.false_eq_true, ↓reduceIte]
  exact ⟨_, _, rfl, rfl⟩

/-- A node that names its only child can be evaluated in a session that has nothing cached and keeps no presence
conditions, if the child has no children and an expression with a value. -/
lemma evaluateNode_of_child (hchildren : g.children i = [c]) (hleaf : g.children c = []) (hne : g.id c ≠ g.id i)
    (hempty : s.cache.entries = []) (hkept : s.presences = [])
    (hpresence : (g.node c).presence = .formula formula) (hformula : Formula.ofText formula = .ok f)
    (hchecker : s.checker (g.node i).model = .ok name) (hparse : Expression.parse name = .ok (.name (g.id c)))
    {text : String} (hchecker' : s.checker (g.node c).model = .ok text) {expression : Expression}
    (hparse' : Expression.parse text = .ok expression) {raw : Diagram}
    (hsolve : expression.solve s.space.owner [] = .ok raw) :
    ∃ handle after, evaluateNode g i s = (.ok handle, after) := by
  have hnone {cache : Cache} (h : cache.entries = s.cache.entries) (id : String) : cache.get? id = none := by
    rw [Cache.get?, h, hempty]
    rfl
  -- both ids are looked up, the child is completed first
  obtain ⟨cache, hlook, hentries⟩ := look_of_new (s := { s with trace := .empty }) (hnone rfl (g.id i))
  obtain ⟨cache', hlook', hentries'⟩ :=
    look_of_new (s := { s with trace := .empty, cache }) (hnone hentries (g.id c))
  have hentries' : cache'.entries = s.cache.entries := hentries'.trans hentries
  obtain ⟨below, mid, hcomplete, hmid, hspace, hsame, hpresences⟩ := complete_of_leaf
    (s := { s with trace := .empty, cache := cache' }) hleaf (hnone hentries' _) hchecker' hparse' hsolve
  have hmid : mid.cache.entries = [(g.id c, below)] := by
    rw [hmid, show cache'.entries = [] from hentries'.trans hempty, List.nil_append]
  have hother : (g.id i == g.id c) = false := beq_false_of_ne hne.symm
  obtain ⟨handle, after, hcomplete', hafter⟩ := complete_of_child (s := mid) hchildren
    (by simp [Cache.get?, hmid, List.lookup_cons, hother]) ⟨below, by simp [Cache.get?, hmid]⟩
    (hpresences.trans hkept) hpresence hformula (by rw [hsame]; exact hchecker) hparse
  have hscan : scan g ([] ++ [g.id i]) (g.children i).reverse [] { s with trace := .empty, cache } =
      (.ok [c], { s with trace := .empty, cache := cache' }) := by
    rw [hchildren, List.reverse_singleton, scan, if_neg (by simpa using hne), hlook']
    rfl
  have hvisit : visit g [] [i] { s with trace := .empty, cache } = (.ok (), after) := by
    rw [visit_of_scan_ok (by simp [Cache.contains, hnone hentries]) List.not_mem_nil hscan,
      visit_of_leaf hleaf (hnone hentries' _) (by simpa using hne) hcomplete, Outcome.andThen_ok, hcomplete',
      Outcome.andThen_ok, visit_nil]
  have hget : after.cache.get? (g.id i) = some handle := by
    simp [Cache.get?, hafter, hmid, List.lookup_cons, hother]
  exact ⟨handle, after, by simp only [evaluateNode, hlook, Walk.run_eq_visit, hvisit, hget]⟩

end Child

/-- A single letter is the formula of a feature. -/
lemma ofText_feature : Formula.ofText "a" = .ok (.feature "a") := by decide +kernel

/-- One half is read as a number. -/
lemma exists_parse_number : ∃ v, Expression.parse "0.5" = .ok (.float v) := by
  have h : (match Expression.parse "0.5" with | .ok (.float _) => true | _ => false) = true := by decide +kernel
  split at h
  · exact ⟨_, ‹_›⟩
  · cases h

/-- A fresh session can evaluate, for example, a root that names the child that it shares with another root. -/
lemma exists_evaluated : ∃ s handle after,
    start .standard 0 "a" Checker.plain none = .ok s ∧ s.cache.entries = [] ∧
    evaluateNode Graph.twin (1 : Fin 4) s = (.ok handle, after) := by
  obtain ⟨s, hstart⟩ := exists_start .standard 0 ofText_feature Checker.plain none
  obtain ⟨_, hchecker, hcache, hpresences⟩ := started hstart
  have hempty : s.cache.entries = [] := by
    rw [hcache]
    rfl
  have hformula : Formula.ofText "b" = .ok (.feature "b") := by decide +kernel
  have hrefers : Expression.parse "d" = .ok (.name "d") := by decide +kernel
  obtain ⟨v, hparse⟩ := exists_parse_number
  obtain ⟨handle, after, heval⟩ := evaluateNode_of_child (g := Graph.twin) (i := (1 : Fin 4)) (c := (3 : Fin 4))
    (s := s) rfl rfl (by decide) hempty hpresences rfl hformula (by rw [hchecker]; rfl) hrefers
    (by rw [hchecker]; rfl) hparse rfl
  exact ⟨s, handle, after, hstart, hempty, heval⟩

/-! What is kept -/

/-- An evaluation of a node keeps what lookups keep and what computing one of the nodes keeps that it may come to,
whether it succeeds or fails. -/
theorem evaluateNode_keeps {g : Graph} {I : Session → Prop} {Q : Fin g.size → Prop} {i : Fin g.size} {s : Session}
    (huntraced : I s → I { s with trace := .empty }) (hlook : ∀ s id, I s → I (s.look id).2)
    (hcomplete : ∀ i s, Q i → I s → I (complete g i s).2) (hchildren : ∀ i, Q i → ∀ c ∈ g.children i, Q c)
    (hi : Q i) (hs : I s) : I (evaluateNode g i s).2 := by
  have hlooked := hlook _ (g.id i) (huntraced hs)
  have hvisited {mid : Session} (h : { s with trace := .empty }.look (g.id i) = (none, mid)) :
      I (visit g [] [i] mid).2 := by
    rw [h] at hlooked
    exact visit_keeps hlook hcomplete hchildren (by simpa using hi) hlooked
  generalize hout : evaluateNode g i s = out
  obtain ⟨r, after⟩ := out
  cases answered_of_evaluateNode hout with
  | found h => rwa [h] at hlooked
  | failed h hvisit =>
    have hafter := hvisited h
    rwa [hvisit] at hafter
  | visited h hvisit =>
    have hafter := hvisited h
    rwa [hvisit] at hafter
  | missing h hvisit =>
    have hafter := hvisited h
    rwa [hvisit] at hafter

/-- An evaluation of a node fails at a cycle of ids, for its missing result, or at completing one of the nodes
that it may come to in a session with what lookups and completing nodes keep. -/
theorem evaluateNode_error_keeps {g : Graph} {I : Session → Prop} {Q : Fin g.size → Prop} {i : Fin g.size}
    {s after : Session} {e : Error} (huntraced : I s → I { s with trace := .empty })
    (hlook : ∀ s id, I s → I (s.look id).2) (hcomplete : ∀ i s, Q i → I s → I (complete g i s).2)
    (hchildren : ∀ i, Q i → ∀ c ∈ g.children i, Q c) (hi : Q i) (hs : I s)
    (h : evaluateNode g i s = (.error e, after)) :
    (∃ p, e = .cycle p) ∨ e = .missingResult (g.id i) ∨
      ∃ j mid, Q j ∧ I mid ∧ complete g j mid = (.error e, after) := by
  have hlooked := hlook _ (g.id i) (huntraced hs)
  cases answered_of_evaluateNode h with
  | failed hnone hvisit =>
    rw [hnone] at hlooked
    rcases visit_error_keeps hlook hcomplete hchildren (by simpa using hi) hlooked hvisit with hcycle | hnode
    · exact .inl hcycle
    · exact .inr (.inr hnode)
  | missing => exact .inr (.inl rfl)

/-- Whether every small step of an evaluation keeps a property of sessions. -/
structure Kept (I : Session → Prop) : Prop where
  untraced (s : Session) : I s → I { s with trace := .empty }
  look (s : Session) (id : String) : I s → I (s.look id).2
  ask (s : Session) (model : Model) : I s → I (s.ask model).2
  presence {α : Type} (s : Session) (node : Node α) : I s → I (s.presence node).2
  make (s : Session) (d : Diagram) : I s → I (s.make d).2
  record {s : Session} {id : String} {raw : Diagram} {cache : Cache} : I s →
    s.cache.put id ⟨s.supply, s.featureModel.diagram.mul raw⟩ = .ok cache → I (s.record id cache)

namespace Kept

variable {I : Session → Prop} {g : Graph} {s : Session}

/-- Binding children keeps what the small steps keep. -/
lemma bindChildren (hI : Kept I) (parent : String) (cs : List (Fin g.size)) (bindings : Expression.Bindings)
    (hs : I s) : I (bindChildren g parent cs bindings s).2 := by
  induction cs generalizing bindings s with
  | nil => exact hs
  | cons c rest ih =>
    have hpresence := hI.presence s (g.node c) hs
    rw [Session.bindChildren]
    split
    · exact hs
    · split
      · rename_i hp
        rwa [hp] at hpresence
      · rename_i hp
        rw [hp] at hpresence
        exact ih _ hpresence

/-- Computing a node keeps what the small steps keep. -/
lemma compute (hI : Kept I) (i : Fin g.size) (hs : I s) : I (compute g i s).2 := by
  have hask := hI.ask s (g.node i).model hs
  have hbound := hI.bindChildren (g.id i) (g.children i) [] hask
  generalize hout : Session.compute g i s = out
  obtain ⟨r, after⟩ := out
  cases computed_of_compute hout with
  | unchecked => exact hask
  | unbound _ hbind => rwa [hbind] at hbound
  | unread _ hbind => rwa [hbind] at hbound
  | unsolved _ hbind => rwa [hbind] at hbound
  | solved _ hbind => rwa [hbind] at hbound

/-- Completing a node keeps what the small steps keep. -/
lemma complete (hI : Kept I) (i : Fin g.size) (hs : I s) : I (complete g i s).2 := by
  have hcomputed := hI.compute i hs
  generalize hout : Session.complete g i s = out
  obtain ⟨r, after⟩ := out
  cases completed_of_complete hout with
  | failed hcompute => rwa [hcompute] at hcomputed
  | @refused d _ mid hcompute =>
    rw [hcompute] at hcomputed
    exact hI.make mid d hcomputed
  | recorded hcompute hput =>
    rw [hcompute] at hcomputed
    cases computed_of_compute hcompute with
    | solved => exact hI.record hcomputed hput

/-- An evaluation keeps what its small steps keep, whether it succeeds or fails. -/
theorem evaluateNode (hI : Kept I) (i : Fin g.size) (hs : I s) : I (evaluateNode g i s).2 :=
  evaluateNode_keeps (Q := fun _ => True) (hI.untraced s) hI.look (fun j _ _ => hI.complete j) (by simp) trivial hs

/-- An evaluation keeps what its small steps keep, also where a closed session refuses it. -/
lemma evaluate (hI : Kept I) (i : Fin g.size) (hs : I s) : I (evaluate g i s).2 := by
  rw [Session.evaluate]
  split
  · exact hs
  · exact hI.evaluateNode i hs

/-- Evaluating several nodes keeps what the small steps keep. -/
lemma evaluateMany (hI : Kept I) (nodes : List (Fin g.size)) (results : List (String × Handle)) (hs : I s) :
    I (evaluateMany g nodes results s).2 := by
  induction nodes generalizing results s with
  | nil => exact hs
  | cons i rest ih =>
    have hnode := hI.evaluateNode i hs
    rw [Session.evaluateMany]
    split
    · rename_i he
      rwa [he] at hnode
    · rename_i he
      rw [he] at hnode
      exact ih _ hnode

/-- What evaluations keep is kept by all calls if declaring features, forgetting and closing keep it. -/
theorem after (hI : Kept I) (hdeclare : ∀ s names, I s → I { s with space := s.space.declare names })
    (hreset : ∀ s, I s → I s.reset) (hclear : ∀ s, I s → I s.clear) (hclose : ∀ s, I s → I s.close)
    (calls : List Call) (hs : I s) : I (s.after calls) := by
  induction calls generalizing s with
  | nil => exact hs
  | cons call rest ih =>
    refine ih ?_
    cases call with
    | evaluate g i =>
      have h := hI.evaluate i hs (g := g)
      simp only [Call.respond]
      split <;> rename_i he <;> rwa [he] at h
    | evaluateNode g i =>
      have h := hI.evaluateNode i hs (g := g)
      simp only [Call.respond]
      split <;> rename_i he <;> rwa [he] at h
    | evaluateMany g nodes =>
      have h := hI.evaluateMany nodes [] hs
      simp only [Call.respond]
      split <;> rename_i he <;> rwa [he] at h
    | presence g i => exact hI.presence s (g.node i) hs
    | declare names => exact hdeclare s names hs
    | reset => exact hreset s hs
    | clear => exact hclear s hs
    | close => exact hclose s hs

end Kept

end Session

end ProductLine
