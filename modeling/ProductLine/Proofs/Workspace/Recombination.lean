import ProductLine.Proofs.Region.Restriction
import ProductLine.Proofs.Region.Text
import ProductLine.Proofs.Workspace.Growth

/-!
# Diagrams put together again

A diagram is the sum of its values times its regions. The regions may be encoded anew from their texts: every one is
encoded as the region that was printed, without anything being declared (`FeatureSpace.encode_text`). One more term
changes the values where its region holds, and only there (`FeatureSpace.exists_sum_cons`), so in whatever order the
terms are added, each value ends where it was (`FeatureSpace.exists_sum`) and the sum equals the diagram
(`Workspace.recombined_of_run`).
-/

namespace ProductLine

namespace FeatureSpace

/-- Whether no feature is declared twice and all features have names that can be read. -/
structure Readable (space : FeatureSpace) : Prop where
  nodup : space.features.Nodup
  names : ∀ name ∈ space.features, Formula.IsFeatureName name.toList

variable {space : FeatureSpace}

/-! Texts of regions -/

section Text

variable {level : Nat}

/-- The name of a level is a feature. -/
lemma nameOf_mem (h : level < space.features.length) : space.nameOf level ∈ space.features := by
  rw [nameOf, List.getD_eq_getElem _ _ h]
  exact List.getElem_mem h

/-- If no feature was declared twice, the feature of a level has that level. -/
lemma level_nameOf (hspace : space.features.Nodup) (h : level < space.features.length) :
    space.level (space.nameOf level) = level := by
  rw [nameOf, List.getD_eq_getElem _ _ h]
  exact hspace.idxOf_getElem level h

/-- Declared names are not declared again. -/
lemma withNamesIn_eq_self {normal : String} (h : ∀ n ∈ Formula.namesIn normal, n ∈ space.features) :
    space.withNamesIn normal = space := by
  have hnone : (Formula.namesIn normal).filter (· ∉ space.features) = [] := by
    apply List.filter_eq_nil_iff.2
    intro n hn
    simpa using h n hn
  rw [withNamesIn, hnone]
  simp

/-- The text of a region of declared features is encoded as that region, and nothing is declared. -/
theorem encode_text (hspace : space.Readable) {r : Region} (hr : r.Within space.features.length) :
    space.encode (r.text space.nameOf) = (.ok r, space) := by
  have hasks : ∀ level, r.tree.asks level = true → space.nameOf level ∈ space.features :=
    fun level hlevel => nameOf_mem (hr.lt_of_dependsOn hlevel)
  have hfeatures : ∀ level, r.tree.asks level = true → Formula.IsFeatureName (space.nameOf level).toList :=
    fun level hlevel => hspace.names _ (hasks level hlevel)
  generalize hp : Formula.Printed.ofTree space.nameOf false r.tree = p
  have hproper : p.Proper := hp ▸ Formula.Printed.named_ofTree hfeatures
  have hdeclared : p.Named (· ∈ space.features) := hp ▸ Formula.Printed.named_ofTree hasks
  have htext : r.text space.nameOf = String.ofList p.text := by
    rw [← hp, ← Formula.Printed.toList_write hfeatures, String.ofList_toList]
    rfl
  have hsame : space.withNamesIn (String.ofList p.text) = space := by
    refine withNamesIn_eq_self fun n hn => hdeclared.forall_mem_names n ?_
    rwa [Formula.namesIn, String.toList_ofList, hproper.namesOf_words_text] at hn
  have hregion : p.formula.region space.level = r := by
    refine Region.ext fun y => ?_
    rw [Formula.holds_region, ← hp, Formula.Printed.holds_ofTree, Bool.bne_false]
    refine Region.holds_congr_of_dependsOn fun m hm => ?_
    rw [level_nameOf hspace.nodup (hr.lt_of_dependsOn hm)]
  have hencode := (encode_of_normalize hproper.normalize_text space).1 _ hproper.parse_text
  rw [hsame, hregion] at hencode
  rw [htext]
  exact hencode

end Text

/-! Sums -/

/-- Adds numbers times encoded formulas to an operand, from the first to the last. -/
def sum (space : FeatureSpace) (total : Operand) : List (Binary64 × String) → Except Error Operand × FeatureSpace
  | [] => (.ok total, space)
  | (v, text) :: terms =>
    match space.encode text with
    | (.error e, after) => (.error e, after)
    | (.ok r, after) =>
      match Operand.operate .mul (.datum (.float v)) (.diagram (.ofRegion after.owner r)) with
      | .error e => (.error e, after)
      | .ok term =>
        match Operand.operate .add total (.diagram term) with
        | .error e => (.error e, after)
        | .ok total => after.sum (.diagram total) terms

/-- A value and the text of its region. -/
def term (space : FeatureSpace) (e : Diagram.Entry) : Binary64 × String := (e.1, e.2.text space.nameOf)

/-- Whether an entry has a rounded value and a region of declared features. -/
structure Keeps (space : FeatureSpace) (e : Diagram.Entry) : Prop where
  normal : space.owner.normalize e.1 = e.1
  within : e.2.Within space.features.length

variable {total : Operand} {p : Diagram}

/-- A rounded value times a region is that value in the region and zero outside. -/
lemma exists_product_region {e : Diagram.Entry} (he : space.Keeps e) :
    ∃ q, Operand.operate .mul (.datum (.float e.1)) (.diagram (.ofRegion space.owner e.2)) = .ok q ∧
      q.Canonical space ∧ ∀ x, q.valueAt x = if e.2.holds x then e.1 else .zero := by
  have hvalue : (Operand.datum (.float e.1)).toDiagram space.owner = .ok (.constant space.owner e.1) := rfl
  have hconstant := Diagram.Canonical.constant space e.1
  have hregion := Diagram.Canonical.ofRegion he.within
  have hoperate : Operand.operate .mul (.datum (.float e.1)) (.diagram (.ofRegion space.owner e.2)) =
      .ok ((Diagram.constant space.owner e.1).mul (.ofRegion space.owner e.2)) := by
    rw [Operand.operate_of_toDiagram .mul hvalue rfl]
    exact if_pos rfl
  refine ⟨_, hoperate, hconstant.mul hregion, fun x => ?_⟩
  have howner : (Diagram.constant space.owner e.1).owner = space.owner := rfl
  rw [Diagram.valueAt_mul hconstant.wellFormed hregion.wellFormed, Diagram.valueAt_constant,
    Diagram.valueAt_ofRegion, he.normal, howner]
  split
  · rw [Owner.product, Binary64.mul_one, he.normal]
    split
    · rename_i hzero
      exact (hzero.resolve_right Binary64.one_ne_zero).symm
    · rfl
  · exact Owner.product_zero _ _

/-- Addition succeeds and has the rounded sum at every product. -/
lemma exists_operate_add {q : Diagram} (htotal : total.toDiagram space.owner = .ok p) (hp : p.Canonical space)
    (hq : q.Canonical space) :
    ∃ s, Operand.operate .add total (.diagram q) = .ok s ∧ s.Canonical space ∧
      ∀ x, s.valueAt x = space.owner.normalize (p.valueAt x + q.valueAt x) := by
  have hadd : ∀ x, ∃ v, Operation.add.scalar space.owner (p.valueAt x) (q.valueAt x) = .ok v := fun x => ⟨_, rfl⟩
  obtain ⟨s, hs, hcanonical, hvalue⟩ := hp.exists_operate hq hadd
  refine ⟨s, ?_, hcanonical, fun x => (Except.ok.inj (hvalue x)).symm⟩
  rw [Operand.operate_of_toDiagram .add htotal hq.owner, hs]

/-- One more term gives its value to its region, where the sum was zero before, and leaves the other values. -/
lemma exists_sum_cons (hspace : space.Readable) (htotal : total.toDiagram space.owner = .ok p)
    (hp : p.Canonical space) {e : Diagram.Entry} (he : space.Keeps e)
    (hzero : ∀ x, e.2.holds x = true → p.valueAt x = .zero) (terms : List (Binary64 × String)) :
    ∃ q, space.sum total (space.term e :: terms) = space.sum (.diagram q) terms ∧ q.Canonical space ∧
      ∀ x, q.valueAt x = if e.2.holds x then e.1 else p.valueAt x := by
  obtain ⟨q, hproduct, hq, hqvalue⟩ := exists_product_region he
  obtain ⟨s, hadd, hs, hsvalue⟩ := exists_operate_add htotal hp hq
  refine ⟨s, ?_, hs, fun x => ?_⟩
  · simp only [term, sum, encode_text hspace he.within, hproduct, hadd]
  · rw [hsvalue, hqvalue]
    split
    · rename_i hx
      rw [hzero x hx, Binary64.zero_add, he.normal]
    · rw [Binary64.add_zero, ← hp.owner, hp.wellFormed.normalize_valueAt]

/-- Terms on disjoint regions, where the sum was zero before, each give their value to their region, and the other
values stay. Nothing is declared. -/
theorem exists_sum (hspace : space.Readable) {es : List Diagram.Entry} (hkeeps : ∀ e ∈ es, space.Keeps e)
    (hdisjoint : es.Pairwise fun e f => e.2.Disjoint f.2) (htotal : total.toDiagram space.owner = .ok p)
    (hp : p.Canonical space) (hzero : ∀ e ∈ es, ∀ x, e.2.holds x = true → p.valueAt x = .zero) :
    ∃ after q, space.sum total (es.map space.term) = (.ok after, space) ∧
      after.toDiagram space.owner = .ok q ∧ q.Canonical space ∧
      (∀ e ∈ es, ∀ x, e.2.holds x = true → q.valueAt x = e.1) ∧
      ∀ x, (∀ e ∈ es, e.2.holds x = false) → q.valueAt x = p.valueAt x := by
  induction es generalizing total p with
  | nil => exact ⟨total, p, rfl, htotal, hp, List.forall_mem_nil _, fun _ _ => rfl⟩
  | cons e es ih =>
    obtain ⟨he, hkeeps⟩ := List.forall_mem_cons.1 hkeeps
    obtain ⟨hezero, hzero⟩ := List.forall_mem_cons.1 hzero
    obtain ⟨hapart, hdisjoint⟩ := List.pairwise_cons.1 hdisjoint
    obtain ⟨q, hsum, hq, hqvalue⟩ := exists_sum_cons hspace htotal hp he hezero (es.map space.term)
    -- the regions that are still to come lie outside this one, so nothing was changed there
    have hqzero : ∀ f ∈ es, ∀ x, f.2.holds x = true → q.valueAt x = .zero := by
      intro f hf x hfx
      rw [hqvalue, (hapart f hf).symm.holds_eq_false hfx]
      exact hzero f hf x hfx
    have hqowner : (Operand.diagram q).toDiagram space.owner = .ok q := if_pos hq.owner
    obtain ⟨after, s, hafter, hs, hcanonical, hthere, helse⟩ := ih hkeeps hdisjoint hqowner hq hqzero
    refine ⟨after, s, hsum.trans hafter, hs, hcanonical, ?_, ?_⟩
    · refine List.forall_mem_cons.2 ⟨fun x hx => ?_, hthere⟩
      rw [helse x fun f hf => (hapart f hf).holds_eq_false hx, hqvalue, if_pos hx]
    · intro x hx
      obtain ⟨hex, hx⟩ := List.forall_mem_cons.1 hx
      rw [helse x hx, hqvalue, hex, if_neg Bool.false_ne_true]

/-- The values of a diagram times its regions add up to the diagram, in whatever order they are added. -/
theorem exists_sum_regions (hspace : space.Readable) {d : Diagram} (hd : d.Canonical space)
    (hnan : d.hasNaN = false) {es : List Diagram.Entry} (hes : es.Perm d.regions) :
    ∃ after, space.sum (.datum (.int 0)) (es.map space.term) = (.ok after, space) ∧
      after.toDiagram space.owner = .ok d := by
  have hstart : (Operand.datum (.int 0)).toDiagram space.owner = .ok (.constant space.owner .zero) := by
    simp only [Operand.toDiagram, Diagram.numberOf?_zero]
    exact congrArg Except.ok rfl
  have hvalue (x : Nat → Bool) : (Diagram.constant space.owner .zero).valueAt x = .zero := by
    rw [Diagram.valueAt_constant, Owner.normalize_zero]
  have hkeeps : ∀ e ∈ es, space.Keeps e := by
    intro e he
    have hmem := hes.mem_iff.1 he
    exact ⟨hd.owner ▸ hd.wellFormed.normal e hmem, hd.within e hmem⟩
  have hdisjoint : es.Pairwise fun e f => e.2.Disjoint f.2 :=
    (hes.pairwise_iff Region.Disjoint.symm).2 hd.wellFormed.disjoint
  obtain ⟨after, q, hsum, hafter, hq, hthere, helse⟩ :=
    exists_sum hspace hkeeps hdisjoint hstart (.constant space .zero) fun e _ x _ => hvalue x
  have hsame (y : Nat → Bool) : q.valueAt y = d.valueAt y := by
    rcases Diagram.takes_valueAt_or d y with ⟨r, hr, hy⟩ | ⟨hzero, hnone⟩
    · exact hthere _ (hes.mem_iff.2 hr) y hy
    · rw [hzero, ← hvalue y]
      refine helse y fun e he => ?_
      rw [← Bool.not_eq_true]
      exact fun hy => hnone e.1 ⟨e.2, hes.mem_iff.1 he, hy⟩
  have hqnan : q.hasNaN = false := by
    refine hq.hasNaN_eq_false fun y => ?_
    rw [hsame]
    exact Diagram.Canonical.isNaN_valueAt hnan y
  have heq : q = d := hq.ext hspace.nodup hd hqnan hnan fun x => hsame _
  exact ⟨after, hsum, heq ▸ hafter⟩

end FeatureSpace

namespace Workspace

variable {settings : Settings} {serial : Nat} {w : Workspace}

/-- If all features have names that can be read, the text of every region of a diagram made in a feature
space, that of the zero region included, is encoded as that region, and nothing is declared. If the diagram
takes no value that is no number, each of its nonzero values times the region encoded from the text adds up to
a diagram equal to it, in whatever order they are added. -/
theorem recombined_of_run (h : (fresh settings serial).Run w)
    (hnames : ∀ name ∈ w.space.features, Formula.IsFeatureName name.toList) {d : Diagram} (hd : d ∈ w.diagrams)
    (hnan : d.hasNaN = false) :
    (∀ e ∈ d.cover, w.space.encode (e.2.text w.space.nameOf) = (.ok e.2, w.space)) ∧
    ∀ es : List Diagram.Entry, es.Perm d.regions →
      ∃ total sum,
        w.space.sum (.datum (.int 0)) (es.map fun e => (e.1, e.2.text w.space.nameOf)) = (.ok total, w.space) ∧
        total.toDiagram w.space.owner = .ok sum ∧
        ∀ a b : Handle, a.diagram = sum → b.diagram = d → a.equal b = true := by
  have hreadable : w.space.Readable := ⟨(canonical_of_run h).nodup, hnames⟩
  have hcanonical := (canonical_of_run h).diagrams d hd
  refine ⟨?_, ?_⟩
  · intro e he
    exact FeatureSpace.encode_text hreadable (Diagram.within_cover hcanonical.within e he)
  · intro es hes
    obtain ⟨total, hsum, htotal⟩ := FeatureSpace.exists_sum_regions hreadable hcanonical hnan hes
    refine ⟨total, d, hsum, htotal, ?_⟩
    intro a b ha hb
    simp [Handle.equal, ha, hb, hnan]

/-- The formula "a and not b" fails if all features are present, so its region is printed as a negation. -/
lemma exists_run_negation : ∃ w r, (fresh .standard 0).Run w ∧ .ofRegion w.space.owner r ∈ w.diagrams ∧
    w.space.features = ["a", "b"] ∧ r ≠ .empty ∧ r.text w.space.nameOf = "(~ ite(a, b, TRUE))" := by
  have hnormal : Formula.normalize "a && !b" = .ok "a & ~b" := by decide +kernel
  have hparse : Formula.parse "a & ~b" = .ok (.binary .and (.feature "a") (.not (.feature "b"))) := by
    decide +kernel
  have hencode := (FeatureSpace.encode_of_normalize hnormal (fresh .standard 0).space).1 _ hparse
  exact ⟨_, _, .single (.encoded hencode), List.mem_cons_self, by decide +kernel, by decide +kernel,
    by decide +kernel⟩

/-- The theorem applies, for example, to a region that is printed as a negation. -/
theorem recombined_of_run_negation : ∃ w r total sum, (fresh .standard 0).Run w ∧
    .ofRegion w.space.owner r ∈ w.diagrams ∧ w.space.features = ["a", "b"] ∧
    (∀ name ∈ w.space.features, Formula.IsFeatureName name.toList) ∧
    (Diagram.ofRegion w.space.owner r).hasNaN = false ∧
    w.space.encode "(~ ite(a, b, TRUE))" = (.ok r, w.space) ∧
    w.space.sum (.datum (.int 0)) [(.one, "(~ ite(a, b, TRUE))")] = (.ok total, w.space) ∧
    total.toDiagram w.space.owner = .ok sum ∧
    (Handle.mk 0 sum).equal ⟨1, .ofRegion w.space.owner r⟩ = true := by
  obtain ⟨w, r, hrun, hmade, hfeatures, hne, htext⟩ := exists_run_negation
  have hnames : ∀ name ∈ w.space.features, Formula.IsFeatureName name.toList := by
    rw [hfeatures]
    exact List.forall_mem_cons.2 ⟨.singleton (c := 'a') (by decide), List.forall_mem_singleton.2
      (.singleton (c := 'b') (by decide))⟩
  have hnan := hasNaN_ofRegion w.space.owner r
  have hregions : (Diagram.ofRegion w.space.owner r).regions = [(.one, r)] := if_neg hne
  obtain ⟨hencode, hsum⟩ := recombined_of_run hrun hnames hmade hnan
  have hentry : (.one, r) ∈ (Diagram.ofRegion w.space.owner r).cover := by
    apply List.mem_append_left
    rw [hregions]
    exact List.mem_singleton_self _
  have hregion := hencode (.one, r) hentry
  obtain ⟨total, sum, hterms, htotal, hequal⟩ := hsum [(.one, r)] (.of_eq hregions.symm)
  simp only [List.map_singleton, htext] at hregion hterms
  have hsame := hequal ⟨0, sum⟩ ⟨1, .ofRegion w.space.owner r⟩ rfl rfl
  exact ⟨w, r, total, sum, hrun, hmade, hfeatures, hnames, hnan, hregion, hterms, htotal, hsame⟩

end Workspace

end ProductLine
