import Mathlib.Tactic.Common
import ProductLine.Proofs.Graph.Reachability
import ProductLine.Proofs.Session.Presence

/-!
# Masking

Nothing but zero is ever computed for an invalid product: every diagram in the cache of a session and every
diagram that an evaluation returns is zero wherever the feature model is (`zero_of_invalid`), whatever was
called before, what failed on the way, and also if values are infinite or no numbers. A result is a
product with the feature model, and a product needs no value where a factor stores none.
-/

namespace ProductLine

/-- Whether a diagram is zero wherever the feature model is. -/
def Diagram.MaskedBy (d valid : Diagram) : Prop :=
  ∀ (space : FeatureSpace) (x : String → Bool), valid.evaluate space x = .zero → d.evaluate space x = .zero

namespace Diagram

/-- A product is masked by its first factor. -/
lemma maskedBy_mul {valid : Diagram} (h : valid.WellFormed) (d : Diagram) : (valid.mul d).MaskedBy valid := by
  intro space x hzero
  -- nothing is multiplied there, so an infinite value of the other factor does no harm
  refine valueAt_mul_of_not_takes fun v hv => ?_
  obtain ⟨hne, hvalue⟩ := h.takes_iff.1 hv
  exact hne (hvalue.symm.trans hzero)

end Diagram

namespace Session

/-- Whether the feature model is still the same and all cached diagrams are masked by it. -/
structure Masked (valid : Diagram) (s : Session) : Prop where
  featureModel : s.featureModel.diagram = valid
  cached : ∀ e ∈ s.cache.entries, e.2.diagram.MaskedBy valid

namespace Masked

variable {valid : Diagram}

/-- Putting a result keeps all cached diagrams masked. -/
lemma record (hvalid : valid.WellFormed) {s : Session} {id : String} {raw : Diagram} {cache : Cache}
    (hs : Masked valid s) (hput : s.cache.put id ⟨s.supply, s.featureModel.diagram.mul raw⟩ = .ok cache) :
    Masked valid (s.record id cache) := by
  obtain ⟨_, rfl⟩ := Cache.put_ok hput
  refine ⟨hs.featureModel, ?_⟩
  intro e he
  rcases List.mem_append.1 he with he | he
  · exact hs.cached e he
  · obtain rfl := List.mem_singleton.1 he
    rw [hs.featureModel]
    exact Diagram.maskedBy_mul hvalid raw

/-- Every small step of an evaluation keeps the cached diagrams masked. -/
lemma kept (hvalid : valid.WellFormed) : Kept (Masked valid) where
  untraced _ hs := ⟨hs.featureModel, hs.cached⟩
  look s id hs := ⟨by simpa using hs.featureModel, by simpa using hs.cached⟩
  ask _ _ hs := ⟨hs.featureModel, hs.cached⟩
  presence s node hs := ⟨by simpa using hs.featureModel, by simpa using hs.cached⟩
  make _ _ hs := ⟨hs.featureModel, hs.cached⟩
  record hs hput := hs.record hvalid hput

/-- With an empty cache there is nothing to mask. -/
lemma of_empty {s : Session} (hmodel : s.featureModel.diagram = valid) (hempty : s.cache = .empty) :
    Masked valid s := by
  refine ⟨hmodel, ?_⟩
  rw [hempty]
  intro e he
  cases he

/-- The cached diagrams of a session in use are masked. -/
lemma after (hvalid : valid.WellFormed) {s : Session} (hs : Masked valid s) (calls : List Call) :
    Masked valid (s.after calls) := by
  refine (kept hvalid).after ?_ ?_ ?_ ?_ calls hs
  · exact fun _ _ hs => ⟨hs.featureModel, hs.cached⟩
  · exact fun _ hs => of_empty hs.featureModel rfl
  · exact fun _ hs => of_empty hs.featureModel rfl
  · intro s hs
    rw [close]
    split
    · exact hs
    · exact of_empty hs.featureModel rfl

variable {g : Graph} {s : Session}

/-- A result that an evaluation returns is masked. -/
lemma of_evaluateNode (hvalid : valid.WellFormed) (hs : Masked valid s) {i : Fin g.size} {handle : Handle}
    {after : Session} (h : evaluateNode g i s = (.ok handle, after)) : handle.diagram.MaskedBy valid := by
  have hafter := (kept hvalid).evaluateNode i hs
  rw [h] at hafter
  exact hafter.cached _ (mem_entries_of_get? (get?_of_evaluateNode h))

/-- All results that the evaluation of several nodes returns are masked. -/
lemma of_evaluateMany (hvalid : valid.WellFormed) (hs : Masked valid s) {nodes : List (Fin g.size)}
    {results found : List (String × Handle)} {after : Session}
    (hresults : ∀ e ∈ results, e.2.diagram.MaskedBy valid)
    (h : evaluateMany g nodes results s = (.ok found, after)) : ∀ e ∈ found, e.2.diagram.MaskedBy valid := by
  induction nodes generalizing results s with
  | nil =>
    cases h
    exact hresults
  | cons i rest ih =>
    have hnode := (kept hvalid).evaluateNode i hs
    rw [evaluateMany] at h
    split at h
    · cases h
    · rename_i handle mid he
      rw [he] at hnode
      refine ih hnode ?_ h
      have hhandle := hs.of_evaluateNode hvalid he
      intro e hmem
      rw [putResult] at hmem
      split at hmem
      · obtain ⟨r, hr, rfl⟩ := List.mem_map.1 hmem
        split
        · exact hhandle
        · exact hresults r hr
      · rcases List.mem_append.1 hmem with hmem | hmem
        · exact hresults e hmem
        · obtain rfl := List.mem_singleton.1 hmem
          exact hhandle

/-- All diagrams that a call returns are masked. -/
lemma of_respond (hvalid : valid.WellFormed) (hs : Masked valid s) (call : Call) :
    ∀ handle ∈ (call.respond s).1, handle.diagram.MaskedBy valid := by
  cases call with
  | evaluate g i =>
    simp only [Call.respond]
    split
    · simp
    · rename_i he
      rw [evaluate] at he
      split at he
      · cases he
      · simpa using hs.of_evaluateNode hvalid he
  | evaluateNode g i =>
    simp only [Call.respond]
    split
    · simp
    · rename_i he
      simpa using hs.of_evaluateNode hvalid he
  | evaluateMany g nodes =>
    simp only [Call.respond]
    split
    · simp
    · rename_i he
      intro handle hmem
      obtain ⟨e, hfound, rfl⟩ := List.mem_map.1 hmem
      exact hs.of_evaluateMany hvalid (by simp) he e hfound
  | _ => simp [Call.respond]

end Masked

/-- In a session that has been used in any way, the cached diagrams and those that any further call returns are
zero wherever the feature model is. -/
theorem zero_of_invalid {settings : Settings} {serial : Nat} {source : String} {checker : Checker}
    {builder : Option Builder} {s : Session} (h : start settings serial source checker builder = .ok s)
    (calls : List Call) :
    (∀ e ∈ (s.after calls).cache.entries, e.2.diagram.MaskedBy s.featureModel.diagram) ∧
      ∀ call, ∀ handle ∈ (Call.respond (s.after calls) call).1, handle.diagram.MaskedBy s.featureModel.diagram := by
  obtain ⟨⟨r, _, hmodel⟩, _, hcache, _⟩ := started h
  have hvalid : s.featureModel.diagram.WellFormed := by
    rw [hmodel]
    exact Diagram.wellFormed_ofRegion _ r
  have hafter := (Masked.of_empty rfl hcache).after hvalid calls
  exact ⟨hafter.cached, fun call => hafter.of_respond hvalid call⟩

/-- The theorem applies, for example, after a root that names the child that it shares was evaluated in a fresh
session, which has both cached then. -/
theorem zero_of_invalid_twin : ∃ s handle, start .standard 0 "a" Checker.plain none = .ok s ∧
    (s.after [.evaluateNode Graph.twin (1 : Fin 4)]).cache.get? "q" = some handle ∧
    handle.diagram.MaskedBy s.featureModel.diagram := by
  obtain ⟨s, handle, after, hstart, _, heval⟩ := exists_evaluated
  have hafter : s.after [.evaluateNode Graph.twin (1 : Fin 4)] = after := by
    simp only [Session.after, List.foldl_cons, List.foldl_nil, Call.respond, heval]
  have hget : (s.after [.evaluateNode Graph.twin (1 : Fin 4)]).cache.get? "q" = some handle := by
    rw [hafter]
    exact get?_of_evaluateNode heval
  exact ⟨s, handle, hstart, hget, (zero_of_invalid hstart _).1 ("q", handle) (mem_entries_of_get? hget)⟩

end Session

end ProductLine
