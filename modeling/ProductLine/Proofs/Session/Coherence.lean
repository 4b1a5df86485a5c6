import Mathlib.Tactic.Common
import ProductLine.Proofs.Session.Requests

/-!
# Presence conditions between two clearings

A session encodes the text of a presence condition once, keeps the diagram, and gives it to every node with
that text until the presence conditions are forgotten. It warns about a text when it encodes it, if no product
satisfies both the text and the feature model. Both is said of all requests made on the way (`Coherent`),
whatever fails between them.
-/

namespace ProductLine

/-- Whether a text is a formula that holds in no product of a feature model. -/
def Formula.NeverHolds (m : Formula) (text : String) : Prop :=
  ∃ f, ofText text = .ok f ∧ ∀ x, ¬ (f.holds x = true ∧ m.holds x = true)

/-- Whether a warning is about a presence condition. -/
def Warning.isAbout (text : String) : Warning → Bool
  | neverPresent condition _ => condition == text
  | noProduct => false

namespace Diagram

variable {space : FeatureSpace} {text source : String} {d d' : Diagram}

/-- The product of the diagrams of two regions is nonzero where both regions are. -/
lemma holds_nonzero_mul_ofRegion (owner : Owner) (r r' : Region) (x : Nat → Bool) :
    ((ofRegion owner r).mul (ofRegion owner r')).nonzero.holds x = true ↔ r.holds x = true ∧ r'.holds x = true := by
  have hr := wellFormed_ofRegion owner r
  have hr' := wellFormed_ofRegion owner r'
  have hvalue : ((ofRegion owner r).mul (ofRegion owner r')).valueAt x =
      owner.product (if r.holds x then .one else .zero) (if r'.holds x then .one else .zero) := by
    rw [valueAt_mul hr hr', valueAt_ofRegion, valueAt_ofRegion]
    rfl
  have htakes : (∃ v, Takes ((ofRegion owner r).mul (ofRegion owner r')).regions x v) ↔
      ((ofRegion owner r).mul (ofRegion owner r')).valueAt x ≠ .zero := by
    constructor
    · rintro ⟨v, hv⟩
      obtain ⟨hne, heq⟩ := (wellFormed_mul hr hr').takes_iff.1 hv
      rwa [heq]
    · intro hne
      exact ⟨_, (wellFormed_mul hr hr').takes_iff.2 ⟨hne, rfl⟩⟩
  rw [holds_nonzero, htakes, hvalue]
  cases r.holds x with
  | false => simp
  | true =>
    cases r'.holds x with
    | false => simp
    | true => simpa using Binary64.one_ne_zero

/-- Two encoded texts have no product in common exactly if the product of their diagrams is zero everywhere. -/
lemma nonzero_mul_eq_empty {f m : Formula} (hspace : space.features.Nodup) (h : d.Encodes space text)
    (h' : d'.Encodes space source) (hf : Formula.ofText text = .ok f) (hm : Formula.ofText source = .ok m) :
    (d.mul d').nonzero = .empty ↔ ∀ x, ¬ (f.holds x = true ∧ m.holds x = true) := by
  obtain ⟨_, r, hf', rfl, hwithin, hholds⟩ := h
  obtain ⟨_, r', hm', rfl, hwithin', hholds'⟩ := h'
  cases hf.symm.trans hf'
  cases hm.symm.trans hm'
  have hproduct : ∀ x,
      ((ofRegion space.owner r).mul (ofRegion space.owner r')).nonzero.holds (space.product x) = true ↔
      f.holds x = true ∧ m.holds x = true := by
    intro x
    rw [holds_nonzero_mul_ofRegion, hholds, hholds']
  constructor
  · intro hempty x
    rw [← hproduct, hempty]
    exact Bool.false_ne_true
  · intro hnever
    have hcanonical := (Canonical.ofRegion hwithin).mul (Canonical.ofRegion hwithin')
    refine Region.Matches.eq_empty hspace (within_nonzero hcanonical.within) fun x => ?_
    exact Bool.not_eq_true _ ▸ mt (hproduct x).1 (hnever x)

/-- A diagram that encodes a text is the one that encoding the text again gives. -/
lemma Encodes.encode_eq (hspace : space.features.Nodup) (h : d.Encodes space text) :
    ∃ r after, space.encode text = (.ok r, after) ∧ d = .ofRegion after.owner r := by
  obtain ⟨f, r, hf, rfl, hwithin, hholds⟩ := h
  obtain ⟨r', after, hencode⟩ := FeatureSpace.exists_encode hf space
  have hextends := space.encode_extends text
  have hnodup := FeatureSpace.nodup_encode hspace text
  rw [hencode] at hextends hnodup
  obtain ⟨f', hf', hholds'⟩ := FeatureSpace.encode_holds hencode
  cases hf.symm.trans hf'
  have hregion : r = r' := by
    apply Region.ext
    intro y
    obtain ⟨x, hx⟩ := FeatureSpace.exists_product hnodup y
    rw [← hwithin.mono hextends.length_le _ _ hx, ← FeatureSpace.within_of_encode hencode _ _ hx,
      hholds' after (.refl after), ← hholds x]
    exact hwithin _ _ fun level hlevel => hextends.product x hlevel
  exact ⟨r', after, hencode, by rw [hregion, hextends.owner]⟩

end Diagram

namespace Session

variable {checker : Checker} {places : Option Nat} {source text : String} {m : Formula} {s t after : Session}
  {log : List Request}

/-- How a request for a presence condition is answered: a diagram is given as it is, a text that was kept by
what was kept, and any other text by encoding it, which keeps it and warns if it holds in no product. -/
inductive Requested (m : Formula) (t : Session) (id : String) :
    Presence → Except Error Handle → Session → Prop where
  | given {handle : Handle} :
    Requested m t id (.diagram handle)
      (if handle.diagram.owner = t.space.owner then .ok handle else .error .foreignDiagram) t
  | known {text : String} {handle : Handle} (hlookup : t.presences.lookup text = some handle) :
    Requested m t id (.formula text) (.ok handle) t
  | refused {text : String} {e : Error} {after : Session} (htext : Formula.ofText text = .error e)
      (hpresences : after.presences = t.presences) (hwarnings : after.warnings = t.warnings) :
    Requested m t id (.formula text) (.error e) after
  | encoded {text : String} {f : Formula} {handle : Handle} {warned : List Warning} {after : Session}
      (hlookup : t.presences.lookup text = none) (htext : Formula.ofText text = .ok f)
      (hpresences : after.presences = t.presences ++ [(text, handle)])
      (hwarnings : after.warnings = t.warnings ++ warned)
      (hnever : m.NeverHolds text → warned = [.neverPresent text id])
      (hsometimes : ¬ m.NeverHolds text → warned = []) :
    Requested m t id (.formula text) (.ok handle) after

/-- A text that was not kept is encoded, kept, and warned about if nothing satisfies it. -/
lemma requested_of_encodePresence (ht : t.Faithful checker places source) (hm : Formula.ofText source = .ok m)
    (hlookup : t.presences.lookup text = none) {id : String} {r : Except Error Handle}
    (h : t.encodePresence id text = (r, after)) : Requested m t id (.formula text) r after := by
  have hextends := t.space.encode_extends text
  have hnodup := FeatureSpace.nodup_encode ht.nodup text
  rw [encodePresence] at h
  cases hencode : t.space.encode text with
  | mk result space =>
    rw [hencode] at h hextends hnodup
    cases result with
    | error e =>
      cases h
      exact .refused (FeatureSpace.encode_eq_error.1 (congrArg Prod.fst hencode)) rfl rfl
    | ok region =>
      cases h
      have hencodes := Diagram.Encodes.of_encode hencode
      obtain ⟨f, hf, _⟩ := FeatureSpace.encode_holds hencode
      have hempty := Diagram.nonzero_mul_eq_empty hnodup hencodes (ht.featureModel.mono hextends) hf hm
      have hnever : m.NeverHolds text ↔ ∀ x, ¬ (f.holds x = true ∧ m.holds x = true) := by
        constructor
        · rintro ⟨f', hf', hnever⟩
          cases hf.symm.trans hf'
          exact hnever
        · exact fun h => ⟨f, hf, h⟩
      rw [← hnever] at hempty
      refine .encoded hlookup hf rfl rfl ?_ ?_
      · exact fun h => if_pos (hempty.2 h)
      · exact fun h => if_neg (mt hempty.1 h)

/-- Every request is answered as its condition and the texts kept so far say. -/
lemma requested_of_presence (ht : t.Faithful checker places source) (hm : Formula.ofText source = .ok m) {α : Type}
    (node : Node α) : Requested m t node.id node.presence (t.presence node).1 (t.presence node).2 := by
  rw [Session.presence]
  cases node.presence with
  | diagram handle => exact .given
  | formula text =>
    simp only
    cases hlookup : t.presences.lookup text with
    | some handle => exact .known hlookup
    | none => exact requested_of_encodePresence ht hm hlookup rfl

end Session

variable {checker : Checker} {places : Option Nat} {source text : String} {m : Formula} {s t after : Session}
  {before log : List Request} {q : Request}

/-- How a request was answered that was made after some others, if no presence condition was forgotten since. -/
structure Request.Fits (m : Formula) (t : Session) (before : List Request) (q : Request) : Prop where
  /-- The text of a formula is answered with the one object that is kept for it. -/
  kept : ∀ text f, q.condition = .formula text → Formula.ofText text = .ok f →
    ∃ handle, t.presences.lookup text = some handle ∧ q.answer = .ok handle
  /-- A text that is no formula fails, whatever was asked for before. -/
  refused : ∀ text e, q.condition = .formula text → Formula.ofText text = .error e → q.answer = .error e
  /-- A diagram is given as it is. -/
  given : ∀ handle, q.condition = .diagram handle →
    q.answer = if handle.diagram.owner = t.space.owner then .ok handle else .error .foreignDiagram
  /-- The first request for a text that holds in no product warns. -/
  warned : ∀ text, q.condition = .formula text → m.NeverHolds text →
    (∀ p ∈ before, p.condition ≠ .formula text) → q.warned = [.neverPresent text q.id]
  /-- No other request warns. -/
  silent : (∀ text, q.condition = .formula text → m.NeverHolds text → ∃ p ∈ before, p.condition = .formula text) →
    q.warned = []

/-- How a request was answered stays so when more texts are kept. -/
lemma Request.Fits.mono (h : q.Fits m t before)
    (howner : after.space.owner = t.space.owner)
    (hkept : ∀ text handle, t.presences.lookup text = some handle → after.presences.lookup text = some handle) :
    q.Fits m after before where
  kept text f hcondition hf := by
    obtain ⟨handle, hlookup, hanswer⟩ := h.kept text f hcondition hf
    exact ⟨handle, hkept text handle hlookup, hanswer⟩
  refused := h.refused
  given := by
    rw [howner]
    exact h.given
  warned := h.warned
  silent := h.silent

/-- A request warns once about a text that holds in no product if it is the first for it, and otherwise not. -/
lemma Request.Fits.countP_warned (h : q.Fits m t before) (text : String) :
    (q.condition = .formula text ∧ m.NeverHolds text ∧ (∀ p ∈ before, p.condition ≠ .formula text) →
      q.warned.countP (·.isAbout text) = 1) ∧
    (¬ (q.condition = .formula text ∧ m.NeverHolds text ∧ ∀ p ∈ before, p.condition ≠ .formula text) →
      q.warned.countP (·.isAbout text) = 0) := by
  constructor
  · rintro ⟨hcondition, hnever, hfirst⟩
    rw [h.warned text hcondition hnever hfirst]
    simp [Warning.isAbout]
  · intro hnot
    by_cases hwarns : ∃ other, q.condition = .formula other ∧ m.NeverHolds other ∧
        ∀ p ∈ before, p.condition ≠ .formula other
    · obtain ⟨other, hcondition, hnever, hfirst⟩ := hwarns
      have hne : other ≠ text := by
        rintro rfl
        exact hnot ⟨hcondition, hnever, hfirst⟩
      rw [h.warned other hcondition hnever hfirst]
      simp [Warning.isAbout, hne]
    · rw [h.silent, List.countP_nil]
      intro other hcondition hnever
      by_contra hnone
      exact hwarns ⟨other, hcondition, hnever, fun p hp hp' => hnone ⟨p, hp, hp'⟩⟩

namespace Session

/-- What holds after requests that began without presence conditions. -/
structure Coherent (m : Formula) (s : Session) (log : List Request) (t : Session) : Prop where
  /-- A text is kept with the diagram that encoding it gives. -/
  encoded : ∀ text handle, t.presences.lookup text = some handle →
    ∃ r after, t.space.encode text = (.ok r, after) ∧ handle.diagram = .ofRegion after.owner r
  /-- Only texts are kept that were asked for. -/
  requested : ∀ text handle, t.presences.lookup text = some handle → ∃ q ∈ log, q.condition = .formula text
  fits : ∀ before q later, log = before ++ q :: later → q.Fits m t before
  /-- All warnings come from requests. -/
  warnings : t.warnings = s.warnings ++ log.flatMap (·.warned)

/-- A split of the requests with one more is a split of those before, or it is at the last. -/
lemma split_concat {log before later : List Request} {last q : Request} (h : log ++ [last] = before ++ q :: later) :
    (∃ rest, log = before ++ q :: rest) ∨ (log = before ∧ last = q) := by
  rcases List.eq_nil_or_concat later with rfl | ⟨rest, r, rfl⟩
  · obtain ⟨hlog, hlast⟩ := List.append_inj' h rfl
    exact .inr ⟨hlog, (List.cons.inj hlast).1⟩
  · rw [List.concat_eq_append, ← List.cons_append, ← List.append_assoc] at h
    exact .inl ⟨rest, (List.append_inj' h rfl).1⟩

namespace Coherent

/-- A session without presence conditions is coherent before the first request. -/
lemma empty (hs : s.presences = []) : Coherent m s [] s where
  encoded text handle h := by
    rw [hs] at h
    cases h
  requested text handle h := by
    rw [hs] at h
    cases h
  fits before q later h := absurd h.symm (by simp)
  warnings := (List.append_nil _).symm

/-- A quiet step leaves a session coherent. -/
lemma quiet (h : Coherent m s log t) (hquiet : t.Quiet after) (hafter : after.Faithful checker places source) :
    Coherent m s log after where
  encoded text handle hlookup := (hafter.presences (text, handle) (mem_of_lookup hlookup)).encode_eq hafter.nodup
  requested text handle hlookup := h.requested text handle (hquiet.presences ▸ hlookup)
  fits before q later hsplit :=
    (h.fits before q later hsplit).mono hquiet.space.owner fun _ _ hlookup => hquiet.presences.symm ▸ hlookup
  warnings := hquiet.warnings.trans h.warnings

/-- A request that is answered as it should leaves a session coherent, if what was kept stays so. -/
lemma concat (h : Coherent m s log t) {q : Request} (hafter : after.Faithful checker places source)
    (howner : after.space.owner = t.space.owner)
    (hkept : ∀ text handle, t.presences.lookup text = some handle → after.presences.lookup text = some handle)
    (hnew : ∀ text handle, after.presences.lookup text = some handle →
      t.presences.lookup text = some handle ∨ q.condition = .formula text)
    (hfits : q.Fits m after log) (hwarnings : after.warnings = t.warnings ++ q.warned) :
    Coherent m s (log ++ [q]) after where
  encoded text handle hlookup := (hafter.presences (text, handle) (mem_of_lookup hlookup)).encode_eq hafter.nodup
  requested text handle hlookup := by
    rcases hnew text handle hlookup with hold | hcondition
    · obtain ⟨p, hp, hcondition⟩ := h.requested text handle hold
      exact ⟨p, List.mem_append_left _ hp, hcondition⟩
    · exact ⟨q, List.mem_append_right _ (List.mem_singleton_self q), hcondition⟩
  fits before p later hsplit := by
    rcases split_concat hsplit with ⟨rest, hrest⟩ | ⟨rfl, rfl⟩
    · exact (h.fits before p rest hrest).mono howner hkept
    · exact hfits
  warnings := by
    rw [List.flatMap_append, List.flatMap_singleton, hwarnings, h.warnings, List.append_assoc]

/-- A diagram that is given is answered as it should be. -/
lemma fits_given (log : List Request) (id : String) (handle : Handle) :
    Request.Fits m t log ⟨id, .diagram handle,
      if handle.diagram.owner = t.space.owner then .ok handle else .error .foreignDiagram, []⟩ where
  kept := nofun
  refused other e hother _ := by cases hother
  given other hother := by
    cases hother
    rfl
  warned := nofun
  silent _ := rfl

/-- A text that was kept was asked for before, so its diagram is given without a warning. -/
lemma fits_known (h : Coherent m s log t) (ht : t.Faithful checker places source) {handle : Handle}
    (hlookup : t.presences.lookup text = some handle) (id : String) :
    Request.Fits m t log ⟨id, .formula text, .ok handle, []⟩ where
  kept other f hother _ := by
    cases hother
    exact ⟨handle, hlookup, rfl⟩
  refused other e hother he := by
    cases hother
    obtain ⟨f, _, hf, _⟩ := ht.presences (text, handle) (mem_of_lookup hlookup)
    cases he.symm.trans hf
  given := nofun
  warned other hother _ hfirst := by
    cases hother
    obtain ⟨p, hp, hcondition⟩ := h.requested text handle hlookup
    exact absurd hcondition (hfirst p hp)
  silent _ := rfl

/-- A text that is no formula fails without a warning. -/
lemma fits_refused (log : List Request) {e : Error} (htext : Formula.ofText text = .error e) (id : String) :
    Request.Fits m t log ⟨id, .formula text, .error e, []⟩ where
  kept other f hother hf := by
    cases hother
    cases htext.symm.trans hf
  refused other e' hother he := by
    cases hother
    cases htext.symm.trans he
    rfl
  given := nofun
  warned other hother hnever _ := by
    cases hother
    obtain ⟨f, hf, _⟩ := hnever
    cases htext.symm.trans hf
  silent _ := rfl

/-- What was asked for before and is a formula was kept. -/
lemma exists_kept (h : Coherent m s log t) (hnever : m.NeverHolds text) {p : Request} (hp : p ∈ log)
    (hcondition : p.condition = .formula text) : ∃ handle, t.presences.lookup text = some handle := by
  obtain ⟨f, hf, _⟩ := hnever
  obtain ⟨before, later, hsplit⟩ := List.append_of_mem hp
  obtain ⟨handle, hlookup, _⟩ := (h.fits before p later hsplit).kept text f hcondition hf
  exact ⟨handle, hlookup⟩

/-- A formula that was not kept is asked for the first time, so it warns if it holds in no product. -/
lemma fits_encoded (h : Coherent m s log t) {f : Formula} {handle : Handle} {warned : List Warning} {id : String}
    (hlookup : t.presences.lookup text = none) (htext : Formula.ofText text = .ok f)
    (hkept : after.presences.lookup text = some handle)
    (hnever : m.NeverHolds text → warned = [.neverPresent text id])
    (hsometimes : ¬ m.NeverHolds text → warned = []) :
    Request.Fits m after log ⟨id, .formula text, .ok handle, warned⟩ where
  kept other f' hother _ := by
    cases hother
    exact ⟨handle, hkept, rfl⟩
  refused other e hother he := by
    cases hother
    cases htext.symm.trans he
  given := nofun
  warned other hother hother' _ := by
    cases hother
    exact hnever hother'
  silent hbefore := by
    refine hsometimes fun hnever => ?_
    obtain ⟨p, hp, hcondition⟩ := hbefore text rfl hnever
    obtain ⟨found, hfound⟩ := h.exists_kept hnever hp hcondition
    cases hlookup.symm.trans hfound

/-- A request for a presence condition leaves a session coherent. -/
lemma request (h : Coherent m s log t) (ht : t.Faithful checker places source) (hm : Formula.ofText source = .ok m)
    {α : Type} (node : Node α) : Coherent m s (log ++ [t.request node]) (t.presence node).2 := by
  have hafter := ht.presence node
  have howner := ((kept_extends t.space).presence t node (.refl _)).owner
  have hrequested := requested_of_presence ht hm node
  rw [Session.request]
  generalize (t.presence node).1 = answer at hrequested
  generalize (t.presence node).2 = after at hrequested hafter howner
  generalize node.presence = condition at hrequested
  -- what a request warns about is what the warnings have gained
  have hgained {warned : List Warning} (hwarnings : after.warnings = t.warnings ++ warned) :
      after.warnings.drop t.warnings.length = warned := by
    rw [hwarnings, List.drop_left]
  cases hrequested with
  | @given handle =>
    rw [hgained (List.append_nil _).symm]
    exact h.concat hafter howner (fun _ _ => id) (fun _ _ => .inl) (fits_given log node.id handle)
      (List.append_nil _).symm
  | @known text handle hlookup =>
    rw [hgained (List.append_nil _).symm]
    exact h.concat hafter howner (fun _ _ => id) (fun _ _ => .inl) (h.fits_known ht hlookup node.id)
      (List.append_nil _).symm
  | @refused text e after htext hpresences hwarnings =>
    have hwarnings' : after.warnings = t.warnings ++ [] := by rw [hwarnings, List.append_nil]
    rw [hgained hwarnings']
    refine h.concat hafter howner ?_ ?_ (fits_refused log htext node.id) hwarnings'
    · exact fun _ _ hlookup => hpresences.symm ▸ hlookup
    · exact fun _ _ hlookup => .inl (hpresences ▸ hlookup)
  | @encoded text f handle warned after hlookup htext hpresences hwarnings hnever hsometimes =>
    have hkept : after.presences.lookup text = some handle := by
      rw [hpresences, List.lookup_append, hlookup]
      simp
    rw [hgained hwarnings]
    refine h.concat hafter howner ?_ ?_ (h.fits_encoded hlookup htext hkept hnever hsometimes) hwarnings
    · intro other found hfound
      rw [hpresences, List.lookup_append, hfound]
      rfl
    · intro other found hfound
      rw [hpresences] at hfound
      refine (lookup_concat hfound).imp_right ?_
      rintro ⟨rfl, _⟩
      rfl

end Coherent

/-- Requests and quiet steps leave a session faithful. -/
lemma Passes.faithful (h : Passes s log t) (hs : s.Faithful checker places source) :
    t.Faithful checker places source := by
  induction h with
  | refl => exact hs
  | quiet _ hquiet ih => exact hquiet.faithful ih
  | request _ node ih => exact ih.presence node

/-- After all requests that follow a time without presence conditions, a session is coherent. -/
theorem Passes.coherent (h : Passes s log t) (hs : s.Faithful checker places source)
    (hm : Formula.ofText source = .ok m) (hempty : s.presences = []) : Coherent m s log t := by
  induction h with
  | refl => exact .empty hempty
  | quiet h hquiet ih => exact ih.quiet hquiet (hquiet.faithful (h.faithful hs))
  | request h node ih => exact ih.request (h.faithful hs) hm node

/-- The number of warnings about a text that requests caused. -/
def warningsAbout (text : String) (log : List Request) : Nat :=
  (log.flatMap (·.warned)).countP (·.isAbout text)

/-- The warnings about a text are those of the earlier requests and those of the last one. -/
lemma warningsAbout_concat (text : String) (log : List Request) (q : Request) :
    warningsAbout text (log ++ [q]) = warningsAbout text log + q.warned.countP (·.isAbout text) := by
  rw [warningsAbout, List.flatMap_append, List.flatMap_singleton, List.countP_append]
  rfl

/-- There is one warning about a text that was asked for and holds in no product, and none about any other. -/
lemma warningsAbout_of_fits (hfits : ∀ before q later, log = before ++ q :: later → q.Fits m t before)
    (text : String) :
    ((∃ q ∈ log, q.condition = .formula text) ∧ m.NeverHolds text → warningsAbout text log = 1) ∧
    (¬ ((∃ q ∈ log, q.condition = .formula text) ∧ m.NeverHolds text) → warningsAbout text log = 0) := by
  induction log using List.reverseRecOn with
  | nil => simp [warningsAbout]
  | append_singleton log q ih =>
    obtain ⟨hone, hnone⟩ := ih fun before p later hsplit =>
      hfits before p (later ++ [q]) (by rw [hsplit, List.append_assoc, List.cons_append])
    obtain ⟨hfirst, hlater⟩ := (hfits log q [] rfl).countP_warned text
    have hmem : (∃ p ∈ log ++ [q], p.condition = .formula text) ↔
        (∃ p ∈ log, p.condition = .formula text) ∨ q.condition = .formula text := by
      simp [or_and_right, exists_or]
    rw [warningsAbout_concat, hmem]
    by_cases hold : ∃ p ∈ log, p.condition = .formula text
    · -- the text was asked for before, so the last request does not warn about it
      obtain ⟨p, hp, hcondition⟩ := hold
      rw [hlater fun h => h.2.2 p hp hcondition]
      exact ⟨fun h => hone ⟨⟨p, hp, hcondition⟩, h.2⟩, fun h => hnone fun h' => h ⟨.inl h'.1, h'.2⟩⟩
    · rw [hnone fun h => hold h.1, Nat.zero_add]
      refine ⟨?_, fun h => hlater fun h' => h ⟨.inr h'.1, h'.2.1⟩⟩
      rintro ⟨hasked, hnever⟩
      exact hfirst ⟨hasked.resolve_left hold, hnever, fun p hp hp' => hold ⟨p, hp, hp'⟩⟩

/-- Presence conditions between two times at which they are forgotten. In a session with a feature model, from
a time without presence conditions and through calls that forget none, a text is kept with the diagram that
encoding it gives, all requests for it are answered with this one object, a text that is no formula always
fails, and there is one warning, by the first request, about each text that holds in no product of the feature
model. -/
theorem coherent_of_run {settings : Settings} {serial : Nat} {builder : Option Builder} {s₀ : Session}
    (hstart : start settings serial source checker builder = .ok s₀) {history : List Call}
    (hs : s₀.after history = s) (hempty : s.presences = []) {calls : List Call}
    (hcalls : ∀ call ∈ calls, call.Keeps) :
    ∃ m, Formula.ofText source = .ok m ∧ Coherent m s (s.requests calls) (s.after calls) ∧
      ∀ text,
        ((∃ q ∈ s.requests calls, q.condition = .formula text) ∧ m.NeverHolds text →
          warningsAbout text (s.requests calls) = 1) ∧
        (¬ ((∃ q ∈ s.requests calls, q.condition = .formula text) ∧ m.NeverHolds text) →
          warningsAbout text (s.requests calls) = 0) := by
  obtain rfl := hs
  have hfaithful := (Faithful.of_start hstart).after history
  obtain ⟨m, _, hm, _⟩ := hfaithful.featureModel
  have hcoherent := (passes_requests hcalls _).coherent hfaithful hm hempty
  exact ⟨m, hm, hcoherent, warningsAbout_of_fits hcoherent.fits⟩

/-- The theorem applies, for example, to a condition that contradicts the feature model, is asked for and then
met again when the parent of its node is evaluated. -/
theorem coherent_of_run_contradiction :
    let g : Graph := .ofNodes
      [⟨"r", [1], .formula "a", .datum (.text "c")⟩, ⟨"c", [], .formula "~a", .datum (.text "1")⟩]
    let calls : List Call := [.presence g (1 : Fin 2), .reset, .evaluate g (0 : Fin 2)]
    ∃ s, start .standard 0 "a" Checker.plain none = .ok s ∧
      Coherent (.feature "a") s (s.requests calls) (s.after calls) ∧ warningsAbout "~a" (s.requests calls) = 1 := by
  intro g calls
  obtain ⟨s, hstart⟩ := exists_start .standard 0 ofText_feature Checker.plain none
  obtain ⟨_, _, _, hempty⟩ := started hstart
  have hcalls : ∀ call ∈ calls, call.Keeps := by
    intro call hcall
    simp only [calls, List.mem_cons, List.not_mem_nil, or_false] at hcall
    rcases hcall with rfl | rfl | rfl
    all_goals trivial
  have hnone : s.after [] = s := rfl
  obtain ⟨m, hm, hcoherent, hwarnings⟩ := coherent_of_run hstart hnone hempty hcalls
  obtain rfl : m = .feature "a" := Except.ok.inj (hm.symm.trans ofText_feature)
  have hnever : Formula.NeverHolds (.feature "a") "~a" := by
    refine ⟨.not (.feature "a"), by decide +kernel, fun x => ?_⟩
    cases h : x "a" <;> simp [Formula.holds, h]
  exact ⟨s, hstart, hcoherent, (hwarnings "~a").1 ⟨⟨_, List.mem_cons_self, rfl⟩, hnever⟩⟩

end Session

end ProductLine
