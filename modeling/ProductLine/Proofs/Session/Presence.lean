import Mathlib.Tactic.Common
import ProductLine.Proofs.Diagram.Pointwise
import ProductLine.Proofs.Session.Calls

/-!
# Presence conditions

A presence condition has a value at each product (`Presence.valueAt`): that of its diagram, or one where its
formula holds and zero elsewhere. A session encodes formulas and keeps the diagrams under their texts, and
more features may be declared afterwards. The diagrams still mean what they meant (`Meant.mono`), so the one a
session gives for a node is right (`Sound.meant_presence`), however the session was used (`Sound.after`).
-/

namespace ProductLine

/-- The value of a presence condition at a product. -/
def Presence.valueAt (space : FeatureSpace) (x : String → Bool) : Presence → Except Error Binary64
  | .diagram handle => .ok (handle.diagram.evaluate space x)
  | .formula text => (Formula.ofText text).map fun f => if f.holds x then .one else .zero

/-- Whether a diagram of a space is what a presence condition means, now and after more features were
declared. -/
structure Presence.Meant (space : FeatureSpace) (p : Presence) (d : Diagram) : Prop where
  wellFormed : d.WellFormed
  owner : d.owner = space.owner
  value : ∀ later, space.Extends later → ∀ x, p.valueAt later x = .ok (d.evaluate later x)

/-- Whether a presence condition is a formula or a well-formed diagram. -/
def Presence.WellFormed : Presence → Prop
  | .formula _ => True
  | .diagram handle => handle.diagram.WellFormed

namespace Presence

/-- What a presence condition means stays so when features are declared. -/
lemma Meant.mono {space later : FeatureSpace} {p : Presence} {d : Diagram} (h : p.Meant space d)
    (hlater : space.Extends later) : p.Meant later d :=
  ⟨h.wellFormed, h.owner.trans hlater.owner.symm, fun _ hlatest => h.value _ (hlater.trans hlatest)⟩

/-- The diagram of a formula that was encoded means the formula. -/
lemma meant_of_encode {space after : FeatureSpace} {text : String} {r : Region}
    (h : space.encode text = (.ok r, after)) : (formula text).Meant after (.ofRegion after.owner r) := by
  obtain ⟨f, hf, hholds⟩ := FeatureSpace.encode_holds h
  refine ⟨Diagram.wellFormed_ofRegion _ r, rfl, ?_⟩
  intro later hlater x
  rw [valueAt, hf, Diagram.evaluate, Diagram.valueAt_ofRegion, hholds later hlater x]
  rfl

end Presence

namespace Session

/-- Whether a session has a given checker and feature model, and keeps for formulas what they mean. -/
structure Sound (checker : Checker) (valid : Diagram) (s : Session) : Prop where
  checker : s.checker = checker
  featureModel : s.featureModel.diagram = valid
  owner : s.space.owner = valid.owner
  presences : ∀ text handle, s.presences.lookup text = some handle →
    (Presence.formula text).Meant s.space handle.diagram

/-- What encoding a presence condition does: the space grows, and the diagram is kept if there is one. -/
inductive Encoded (s : Session) (id text : String) : Except Error Handle → Session → Prop where
  | refused {e : Error} {space : FeatureSpace} (hencode : s.space.encode text = (.error e, space)) :
    Encoded s id text (.error e) { s with space }
  | kept {r : Region} {space : FeatureSpace} {handle : Handle} {warnings : List Warning}
      (hencode : s.space.encode text = (.ok r, space)) (hdiagram : handle.diagram = .ofRegion space.owner r) :
    Encoded s id text (.ok handle)
      { s with space, supply := s.supply + 1, presences := s.presences ++ [(text, handle)], warnings }

/-- How encoding a presence condition ends. -/
lemma encoded_of_encodePresence {s after : Session} {id text : String} {r : Except Error Handle}
    (h : s.encodePresence id text = (r, after)) : Encoded s id text r after := by
  rw [encodePresence] at h
  split at h
  · rename_i hencode
    cases h
    exact .refused hencode
  · rename_i hencode
    cases h
    exact .kept hencode rfl

/-- Encoding a presence condition only appends features. -/
lemma extends_encodePresence (s : Session) (id text : String) :
    s.space.Extends (s.encodePresence id text).2.space := by
  have hspace := s.space.encode_extends text
  generalize hout : s.encodePresence id text = out
  obtain ⟨result, after⟩ := out
  cases encoded_of_encodePresence hout with
  | refused hencode => rwa [hencode] at hspace
  | kept hencode => rwa [hencode] at hspace

namespace Sound

variable {checker : Checker} {valid : Diagram} {s : Session}

/-- Encoding a presence condition keeps a session sound. -/
lemma encodePresence (hs : Sound checker valid s) (id text : String) :
    Sound checker valid (s.encodePresence id text).2 := by
  generalize hout : s.encodePresence id text = out
  obtain ⟨result, after⟩ := out
  have hspace := s.space.encode_extends text
  cases encoded_of_encodePresence hout with
  | refused hencode =>
    rw [hencode] at hspace
    exact ⟨hs.checker, hs.featureModel, hspace.owner.trans hs.owner,
      fun text handle h => (hs.presences text handle h).mono hspace⟩
  | @kept r space handle warnings hencode hdiagram =>
    rw [hencode] at hspace
    refine ⟨hs.checker, hs.featureModel, hspace.owner.trans hs.owner, ?_⟩
    intro text' handle' h
    rcases lookup_concat h with hold | ⟨rfl, rfl⟩
    · -- kept before, in a space that has grown since
      exact (hs.presences text' handle' hold).mono hspace
    · rw [hdiagram]
      exact Presence.meant_of_encode hencode

/-- Asking for a presence condition keeps a session sound. -/
lemma presence {α : Type} (hs : Sound checker valid s) (node : Node α) :
    Sound checker valid (s.presence node).2 := by
  rw [Session.presence]
  split
  · exact hs
  · split
    · exact hs
    · exact hs.encodePresence node.id _

/-- Every small step of an evaluation keeps a session sound. -/
lemma kept : Kept (Sound checker valid) where
  untraced _ hs := ⟨hs.checker, hs.featureModel, hs.owner, hs.presences⟩
  look s id hs := by
    obtain ⟨cache, hits, hlook, _⟩ := s.look_snd id
    rw [hlook]
    exact ⟨hs.checker, hs.featureModel, hs.owner, hs.presences⟩
  ask _ _ hs := ⟨hs.checker, hs.featureModel, hs.owner, hs.presences⟩
  presence _ node hs := hs.presence node
  make _ _ hs := ⟨hs.checker, hs.featureModel, hs.owner, hs.presences⟩
  record hs _ := ⟨hs.checker, hs.featureModel, hs.owner, hs.presences⟩

/-- A session that was started is sound. -/
lemma of_start {settings : Settings} {serial : Nat} {source : String} {builder : Option Builder}
    (h : start settings serial source checker builder = .ok s) : Sound checker s.featureModel.diagram s := by
  obtain ⟨⟨r, _, hmodel⟩, hchecker, _, hpresences⟩ := started h
  refine ⟨hchecker, rfl, ?_, ?_⟩
  · rw [hmodel]
    rfl
  · rw [hpresences]
    intro text handle h
    cases h

/-- A sound session that forgets everything is sound. -/
lemma of_clear (hs : Sound checker valid s) : Sound checker valid s.clear := by
  refine ⟨hs.checker, hs.featureModel, hs.owner, ?_⟩
  intro text handle h
  cases h

/-- However a sound session is used, it stays sound. -/
theorem after (hs : Sound checker valid s) (calls : List Call) : Sound checker valid (s.after calls) := by
  refine kept.after ?_ ?_ ?_ ?_ calls hs
  · intro s names hs
    have hspace := s.space.declare_extends_self names
    exact ⟨hs.checker, hs.featureModel, hs.owner, fun text handle h => (hs.presences text handle h).mono hspace⟩
  · exact fun s hs => ⟨hs.checker, hs.featureModel, hs.owner, hs.presences⟩
  · exact fun s hs => hs.of_clear
  · intro s hs
    rw [close]
    split
    · exact hs
    · exact ⟨hs.of_clear.checker, hs.of_clear.featureModel, hs.of_clear.owner, hs.of_clear.presences⟩

/-- The diagram that a sound session gives for a node is what its presence condition means. -/
theorem meant_presence {α : Type} (hs : Sound checker valid s) {node : Node α} (hnode : node.presence.WellFormed)
    {handle : Handle} {after : Session} (h : s.presence node = (.ok handle, after)) :
    node.presence.Meant after.space handle.diagram := by
  rw [Session.presence] at h
  split at h
  · rename_i given hgiven
    rw [hgiven] at hnode ⊢
    split at h
    · rename_i howner
      cases h
      exact ⟨hnode, howner, fun _ _ _ => rfl⟩
    · cases h
  · rename_i text htext
    rw [htext]
    split at h
    · rename_i hlookup
      cases h
      exact hs.presences text handle hlookup
    · cases encoded_of_encodePresence h with
      | kept hencode hdiagram =>
        rw [hdiagram]
        exact Presence.meant_of_encode hencode

end Sound

/-- Every small step of an evaluation only adds features. -/
lemma kept_extends (space : FeatureSpace) : Kept fun s => space.Extends s.space where
  untraced _ hs := hs
  look s id hs := by
    obtain ⟨cache, hits, hlook, _⟩ := s.look_snd id
    rw [hlook]
    exact hs
  ask _ _ hs := hs
  presence s node hs := by
    rw [presence]
    split
    · exact hs
    · split
      · exact hs
      · exact hs.trans (s.extends_encodePresence node.id _)
  make _ _ hs := hs
  record hs _ := hs

/-- However a session is used, its space only gets more features. -/
lemma extends_after (s : Session) (calls : List Call) : s.space.Extends (s.after calls).space := by
  refine (kept_extends s.space).after ?_ (fun _ ht => ht) (fun _ ht => ht) ?_ calls (.refl _)
  · exact fun t names ht => ht.trans (t.space.declare_extends_self names)
  · intro t ht
    rw [close]
    split
    · exact ht
    · exact ht

end Session

end ProductLine
