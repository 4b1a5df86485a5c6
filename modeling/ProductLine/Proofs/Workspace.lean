import Mathlib.Logic.Relation
import Mathlib.Tactic.Common
import ProductLine.Diagram.Handle
import ProductLine.Proofs.Diagram.Queries
import ProductLine.Proofs.Session.Canonical

/-!
# Diagrams made in a feature space

A feature space is used in steps: features are declared, diagrams are made of numbers, features, formulas,
other diagrams and expressions, sessions are opened and called (`Workspace.Step`). Whatever is done, in
whatever order and with whatever failures, every diagram made is canonical (`Workspace.canonical_of_run`). So
the regions of a diagram partition the products and its entries are stored in one way only (`regions_of_run`),
two diagrams are equal exactly if they are the same function (`equal_iff_evaluate`), and expressions are
solved exactly where arithmetic on numbers succeeds at every product (`solve_iff_scalar`).
-/

namespace ProductLine

/-- Diagrams are equal if they are one object, or store the same and no value that is no number. -/
lemma Handle.equal_iff {a b : Handle} :
    a.equal b = true ↔ a.serial = b.serial ∨ a.diagram.hasNaN = false ∧ a.diagram = b.diagram := by
  simp [equal, same]

/-- A feature space in use: the diagrams made in it and the sessions opened in it. -/
structure Workspace where
  space : FeatureSpace
  diagrams : List Diagram
  sessions : List Session

/-- The diagrams that a session holds. -/
def Session.held (s : Session) : List Diagram :=
  s.featureModel.diagram :: (s.presences.map (·.2.diagram) ++ s.cache.entries.map (·.2.diagram))

namespace Workspace

/-- The space of some settings, with nothing made in it yet. -/
def fresh (settings : Settings) (serial : Nat) : Workspace := ⟨settings.space serial, [], []⟩

/-- Whether a diagram is there to be used: one that was made, or one of another space, which may be any. -/
def AtHand (w : Workspace) (d : Diagram) : Prop := d ∈ w.diagrams ∨ d.owner ≠ w.space.owner

/-- Whether an operand is there to be used. -/
def Offers (w : Workspace) : Operand → Prop
  | .diagram d => w.AtHand d
  | .datum _ => True

/-- What can be made without declaring anything. -/
inductive Makes (w : Workspace) : Diagram → Prop where
  | constant (v : Binary64) : Makes w (.constant w.space.owner v)
  | feature {name : String} (hname : name ∈ w.space.features) : Makes w (.ofFeature w.space name)
  | coerced {a : Operand} {d : Diagram} (ha : w.Offers a) (h : a.toDiagram w.space.owner = .ok d) : Makes w d
  | operated {op : Operation} {a b : Operand} {d : Diagram} (ha : w.Offers a) (hb : w.Offers b)
      (h : Operand.operate op a b = .ok d) (howner : d.owner = w.space.owner) : Makes w d
  | negated {d : Diagram} (hd : d ∈ w.diagrams) : Makes w d.neg
  | solved {e : Expression} {bindings : Expression.Bindings} {d : Diagram}
      (hb : ∀ text operand, bindings.get? text = some operand → w.Offers operand)
      (h : e.solve w.space.owner bindings = .ok d) : Makes w d

/-- What can be done in a feature space. A call reads and grows the space, and what its session holds afterwards is
there to be used. -/
inductive Step (w : Workspace) : Workspace → Prop where
  | declared (names : List String) : Step w { w with space := w.space.declare names }
  | made {d : Diagram} (h : w.Makes d) : Step w { w with diagrams := d :: w.diagrams }
  | encoded {text : String} {r : Region} {after : FeatureSpace} (h : w.space.encode text = (.ok r, after)) :
    Step w { w with space := after, diagrams := .ofRegion after.owner r :: w.diagrams }
  | refused {text : String} {e : Error} {after : FeatureSpace} (h : w.space.encode text = (.error e, after)) :
    Step w { w with space := after }
  | opened {source : String} {model : FeatureModel} {after : FeatureSpace} {s : Session}
      (h : FeatureModel.build w.space source = (.ok model, after)) (hmodel : s.featureModel = model)
      (hcache : s.cache = .empty) (hpresences : s.presences = []) :
    Step w ⟨after, model.diagram :: w.diagrams, s :: w.sessions⟩
  | called {front back : List Session} {s after : Session} {call : Session.Call} {answer : List Handle}
      (hsessions : w.sessions = front ++ s :: back) (hgiven : ∀ d, call.Gives d → w.AtHand d)
      (h : call.respond { s with space := w.space } = (answer, after)) :
    Step w ⟨after.space, after.held ++ w.diagrams, front ++ after :: back⟩

/-- What one feature space comes to in any number of steps. -/
abbrev Run : Workspace → Workspace → Prop := Relation.ReflTransGen Step

/-- Whether no feature is declared twice, every diagram that was made is canonical, and sessions hold no others. -/
structure Canonical (w : Workspace) : Prop where
  nodup : w.space.features.Nodup
  diagrams : ∀ d ∈ w.diagrams, d.Canonical w.space
  sessions : ∀ s ∈ w.sessions, ∀ d ∈ s.held, d ∈ w.diagrams

/-- Whether features and diagrams were added and everything is canonical afterwards. -/
structure Grown (w later : Workspace) : Prop where
  canonical : later.Canonical
  space : w.space.Extends later.space
  diagrams : ∀ d ∈ w.diagrams, d ∈ later.diagrams

namespace Canonical

variable {w : Workspace}

/-- A fresh workspace holds no diagram that is not canonical. -/
lemma fresh (settings : Settings) (serial : Nat) : (Workspace.fresh settings serial).Canonical := by
  refine ⟨?_, ?_, ?_⟩
  · show ((FeatureSpace.mk ⟨serial, settings.places⟩ []).declare settings.order).features.Nodup
    exact FeatureSpace.nodup_declare List.nodup_nil settings.order
  · intro d hd
    cases hd
  · intro s hs
    cases hs

/-- A diagram at hand that belongs to the space is canonical. -/
lemma atHand (hw : w.Canonical) {d : Diagram} (hd : w.AtHand d) (howner : d.owner = w.space.owner) :
    d.Canonical w.space := by
  rcases hd with hd | hd
  · exact hw.diagrams d hd
  · exact absurd howner hd

/-- An operand on offer is canonical. -/
lemma offers (hw : w.Canonical) {operand : Operand} (h : w.Offers operand) : operand.Canonical w.space := by
  cases operand with
  | diagram d => exact hw.atHand h
  | datum => trivial

/-- Names bound to operands on offer are bound to canonical ones. -/
lemma bindings (hw : w.Canonical) {bindings : Expression.Bindings}
    (hb : ∀ text operand, bindings.get? text = some operand → w.Offers operand) : bindings.Canonical w.space :=
  fun text operand h => hw.offers (hb text operand h)

/-- What is made is canonical. -/
theorem makes (hw : w.Canonical) {d : Diagram} (h : w.Makes d) : d.Canonical w.space := by
  cases h with
  | constant v => exact .constant w.space v
  | feature hname => exact .ofRegion (Region.within_feature (List.idxOf_lt_length_iff.2 hname))
  | coerced ha h => exact Operand.canonical_toDiagram (hw.offers ha) h
  | @operated op a b d ha hb h howner =>
    simp only [Operand.operate] at h
    generalize (a.owner?.or b.owner?).getD default = owner at h
    split at h
    · cases h
    · rename_i x hx
      split at h
      · cases h
      · rename_i y hy
        -- the operands are diagrams of the owner that the result has, which is the space's
        have hspace : owner = w.space.owner := by
          rw [← howner, Diagram.owner_operate h, Operand.owner_toDiagram hx]
        rw [hspace] at hx hy
        have hcanonicalx := Operand.canonical_toDiagram (hw.offers ha) hx
        have hcanonicaly := Operand.canonical_toDiagram (hw.offers hb) hy
        exact hcanonicalx.operate hcanonicaly h
  | negated hd => exact (hw.diagrams _ hd).neg
  | solved hb h => exact (Expression.solve_ok (hw.bindings hb) h).1

/-- What was made stays canonical in a space that grows, and more may be made in it. -/
lemma grow (hw : w.Canonical) {space : FeatureSpace} (made : List Diagram) {sessions : List Session}
    (hspace : w.space.Extends space) (hnodup : space.features.Nodup) (hmade : ∀ d ∈ made, d.Canonical space)
    (hsessions : ∀ s ∈ sessions, s ∈ w.sessions ∨ ∀ d ∈ s.held, d ∈ made) :
    w.Grown ⟨space, made ++ w.diagrams, sessions⟩ := by
  refine ⟨⟨hnodup, ?_, ?_⟩, hspace, fun d hd => List.mem_append_right made hd⟩
  · intro d hd
    rcases List.mem_append.1 hd with hd | hd
    · exact hmade d hd
    · exact (hw.diagrams d hd).mono hspace
  · intro s hs d hd
    rcases hsessions s hs with hold | hnew
    · exact List.mem_append_right made (hw.sessions s hold d hd)
    · exact List.mem_append_left w.diagrams (hnew d hd)

/-- A session is tidy if all it holds was made in the space. -/
lemma tidy (hw : w.Canonical) {s : Session} (hs : s ∈ w.sessions) :
    Session.Tidy w.space { s with space := w.space } := by
  have hheld : ∀ d ∈ s.held, d.Canonical w.space := fun d hd => hw.diagrams d (hw.sessions s hs d hd)
  simp only [Session.held, List.mem_cons, List.mem_append, List.mem_map] at hheld
  refine ⟨.refl _, ⟨hw.nodup, hheld _ (.inl rfl), ?_⟩, ?_⟩
  · exact fun e he => hheld _ (.inr (.inl ⟨e, he, rfl⟩))
  · exact fun e he => hheld _ (.inr (.inr ⟨e, he, rfl⟩))

/-- The diagrams that a session holds are canonical. -/
lemma held {base : FeatureSpace} {s : Session} (hs : s.Tidy base) : ∀ d ∈ s.held, d.Canonical s.space := by
  intro d hd
  simp only [Session.held, List.mem_cons, List.mem_append, List.mem_map] at hd
  rcases hd with rfl | ⟨e, he, rfl⟩ | ⟨e, he, rfl⟩
  · exact hs.canonical.featureModel
  · exact hs.canonical.presences e he
  · exact hs.cached e he

/-- Every step only adds, and what it adds is canonical. -/
theorem step (hw : w.Canonical) {next : Workspace} (h : w.Step next) : w.Grown next := by
  have hencoded {text : String} {result : Except Error Region} {after : FeatureSpace}
      (h : w.space.encode text = (result, after)) : w.space.Extends after ∧ after.features.Nodup := by
    have hspace := w.space.encode_extends text
    have hnodup := FeatureSpace.nodup_encode hw.nodup text
    rw [h] at hspace hnodup
    exact ⟨hspace, hnodup⟩
  cases h with
  | declared names =>
    have hspace := w.space.declare_extends_self names
    exact hw.grow [] hspace (FeatureSpace.nodup_declare hw.nodup names) (by simp) fun s hs => .inl hs
  | @made d h =>
    refine hw.grow [d] (.refl w.space) hw.nodup ?_ fun s hs => .inl hs
    simpa using hw.makes h
  | @encoded text r after h =>
    obtain ⟨hspace, hnodup⟩ := hencoded h
    refine hw.grow [.ofRegion after.owner r] hspace hnodup ?_ fun s hs => .inl hs
    simpa using Diagram.Canonical.ofRegion (FeatureSpace.within_of_encode h)
  | refused h =>
    obtain ⟨hspace, hnodup⟩ := hencoded h
    exact hw.grow [] hspace hnodup (by simp) fun s hs => .inl hs
  | @opened source model after s h hmodel hcache hpresences =>
    obtain ⟨r, hencode, hdiagram⟩ := Session.encode_of_build h
    obtain ⟨hspace, hnodup⟩ := hencoded hencode
    refine hw.grow [model.diagram] hspace hnodup ?_ ?_
    · rw [hdiagram]
      simpa using Diagram.Canonical.ofRegion (FeatureSpace.within_of_encode hencode)
    · intro t ht
      rcases List.mem_cons.1 ht with rfl | ht
      · -- a session that was opened holds its feature model only
        exact .inr fun d hd => by simpa [Session.held, hmodel, hcache, hpresences, Cache.empty] using hd
      · exact .inl ht
  | @called front back s after call answer hsessions hgiven h =>
    have hmem : s ∈ w.sessions := by
      rw [hsessions]
      exact List.mem_append_right front List.mem_cons_self
    have hafter := (hw.tidy hmem).respond call fun d hd howner => hw.atHand (hgiven d hd) howner
    rw [h] at hafter
    refine hw.grow after.held hafter.extends_base hafter.canonical.nodup (held hafter) ?_
    intro t ht
    rw [hsessions]
    rcases List.mem_append.1 ht with ht | ht
    · exact .inl (List.mem_append_left _ ht)
    · rcases List.mem_cons.1 ht with rfl | ht
      · exact .inr fun d hd => hd
      · exact .inl (List.mem_append_right front (List.mem_cons_of_mem s ht))

/-- However a feature space is used, all diagrams made in it are canonical. -/
theorem run (hw : w.Canonical) {later : Workspace} (h : w.Run later) : w.Grown later := by
  induction h with
  | refl => exact ⟨hw, .refl w.space, fun _ hd => hd⟩
  | tail _ hstep ih =>
    have hnext := ih.canonical.step hstep
    exact ⟨hnext.canonical, ih.space.trans hnext.space, fun d hd => hnext.diagrams d (ih.diagrams d hd)⟩

end Canonical

/-! What follows for the diagrams made -/

section Results

variable {settings : Settings} {serial : Nat} {w : Workspace}

/-- Whatever is done in a workspace, its diagrams are canonical. -/
lemma canonical_of_run (h : (fresh settings serial).Run w) : w.Canonical :=
  ((Canonical.fresh settings serial).run h).canonical

/-- Among entries with disjoint regions, the one that holds at a product is the only one. -/
lemma filter_holds {es : List Diagram.Entry} (hes : es.Pairwise fun e f => e.2.Disjoint f.2) {e : Diagram.Entry}
    (he : e ∈ es) {x : Nat → Bool} (hx : e.2.holds x = true) : es.filter (fun f => f.2.holds x) = [e] := by
  induction es with
  | nil => cases he
  | cons f es ih =>
    obtain ⟨hf, hes⟩ := List.pairwise_cons.1 hes
    rcases List.mem_cons.1 he with rfl | he
    · have hnone : es.filter (fun f => f.2.holds x) = [] := by
        apply List.filter_eq_nil_iff.2
        intro k hk hkx
        exact Region.disjoint_iff.1 (hf k hk) x hx hkx
      rw [List.filter_cons, if_pos hx, hnone]
    · have hnot : ¬ f.2.holds x = true := fun hfx => Region.disjoint_iff.1 (hf e he) x hfx hx
      rw [List.filter_cons, if_neg hnot]
      exact ih hes he

/-- For example, a feature may be declared and its diagram made. -/
lemma exists_run_feature : ∃ w, (fresh .standard 0).Run w ∧ "a" ∈ w.space.features ∧
    .ofFeature w.space "a" ∈ w.diagrams := by
  have hdeclared : (fresh .standard 0).Step _ := .declared ["a"]
  have hmem : "a" ∈ ((fresh .standard 0).space.declare ["a"]).features :=
    FeatureSpace.mem_declare (List.mem_singleton_self "a")
  have hfeature : Makes { fresh .standard 0 with space := (fresh .standard 0).space.declare ["a"] } _ :=
    .feature hmem
  exact ⟨_, .tail (.single hdeclared) (.made hfeature), hmem, List.mem_cons_self⟩

/-- A workspace can be used to make the diagram of a region. -/
lemma exists_run : ∃ w r, (fresh .standard 0).Run w ∧ .ofRegion w.space.owner r ∈ w.diagrams := by
  obtain ⟨w, hrun, _, hmade⟩ := exists_run_feature
  exact ⟨w, _, hrun, hmade⟩

/-- The diagram of a region takes numbers only. -/
lemma hasNaN_ofRegion (owner : Owner) (r : Region) : (Diagram.ofRegion owner r).hasNaN = false := by
  have hone : Binary64.one.isNaN = false := by
    rw [Binary64.one_eq]
    rfl
  simp only [Diagram.hasNaN, Diagram.ofRegion]
  split
  · rfl
  · simp [hone]

/-- Every diagram made in a feature space, in whatever way, that takes no value that is no number stores distinct
nonzero rounded values in ascending order, on disjoint regions of declared features that are not empty. Of its
regions with the zero region none is empty, and exactly one holds each product, with the value there. No operation
takes it together with a diagram of another space. -/
theorem regions_of_run (h : (fresh settings serial).Run w) {d : Diagram} (hd : d ∈ w.diagrams)
    (hnan : d.hasNaN = false) :
    ((d.regions.map Prod.fst).Nodup ∧ d.regions.Pairwise (fun e f => Binary64.lt e.1 f.1 = true) ∧
      ∀ e ∈ d.regions, e.1 ≠ .zero ∧ w.space.owner.normalize e.1 = e.1) ∧
    (d.owner = w.space.owner ∧ d.regions.Pairwise (fun e f => e.2.Disjoint f.2) ∧
      ∀ e ∈ d.regions, e.2 ≠ .empty ∧ e.2.Within w.space.features.length) ∧
    (∀ e ∈ d.cover, e.2 ≠ .empty) ∧
    (∀ x, ∃ r, d.cover.filter (fun e => e.2.holds (w.space.product x)) = [(d.evaluate w.space x, r)]) ∧
    ∀ (op : Operation) (b : Diagram), b.owner ≠ w.space.owner →
      Operand.operate op (.diagram d) (.diagram b) = .error .foreignDiagram ∧
        Operand.operate op (.diagram b) (.diagram d) = .error .foreignDiagram := by
  have hcanonical := (canonical_of_run h).diagrams d hd
  refine ⟨⟨hcanonical.nodup hnan, hcanonical.ascending hnan, ?_⟩,
    ⟨hcanonical.owner, hcanonical.wellFormed.disjoint, ?_⟩,
    fun e he => Diagram.ne_empty_of_mem_cover hcanonical.wellFormed he, ?_, ?_⟩
  · intro e he
    refine ⟨hcanonical.wellFormed.nonzero e he, ?_⟩
    rw [← hcanonical.owner]
    exact hcanonical.wellFormed.normal e he
  · exact fun e he => ⟨hcanonical.wellFormed.inhabited e he, hcanonical.within e he⟩
  · intro x
    obtain ⟨r, hr, hx⟩ := (Diagram.takes_cover hcanonical.wellFormed (x := w.space.product x)).2 rfl
    exact ⟨r, filter_holds (Diagram.disjoint_cover hcanonical.wellFormed) hr hx⟩
  · intro op b hb
    have hother : ¬ b.owner = d.owner := fun howner => hb (howner.trans hcanonical.owner)
    constructor
    · simp [Operand.operate, Operand.owner?, Operand.toDiagram, hother]
    · simp [Operand.operate, Operand.owner?, Operand.toDiagram, Ne.symm hother]

/-- The theorem applies, for example, to the diagram of a feature. -/
theorem regions_of_run_feature : ∃ w d, (fresh .standard 0).Run w ∧ d ∈ w.diagrams ∧ d.hasNaN = false ∧
    ∀ x, ∃ r, d.cover.filter (fun e => e.2.holds (w.space.product x)) = [(d.evaluate w.space x, r)] := by
  obtain ⟨w, r, hrun, hmade⟩ := exists_run
  have hnan := hasNaN_ofRegion w.space.owner r
  obtain ⟨_, _, _, hone, _⟩ := regions_of_run hrun hmade hnan
  exact ⟨w, _, hrun, hmade, hnan, hone⟩

/-- Two diagrams made in a feature space that take no value that is no number are equal exactly if they have
the same value at every product, also of the features that are declared later. -/
theorem equal_iff_evaluate (h : (fresh settings serial).Run w) {later : Workspace} (hlater : w.Run later)
    {a b : Handle} (ha : a.diagram ∈ w.diagrams) (hb : b.diagram ∈ w.diagrams) (hnana : a.diagram.hasNaN = false)
    (hnanb : b.diagram.hasNaN = false) (hsame : a.serial = b.serial → a = b) :
    a.equal b = true ↔ ∀ x, a.diagram.evaluate later.space x = b.diagram.evaluate later.space x := by
  have hgrown := (canonical_of_run h).run hlater
  have hequal : a.equal b = true ↔ a.diagram = b.diagram := by
    simp only [Handle.equal, Handle.same, hnana, Bool.not_false, Bool.true_and, Bool.or_eq_true, beq_iff_eq]
    exact or_iff_right_of_imp fun hserial => congrArg Handle.diagram (hsame hserial)
  rw [hequal]
  constructor
  · intro heq x
    rw [heq]
  · have hcanonicala := hgrown.canonical.diagrams a.diagram (hgrown.diagrams _ ha)
    have hcanonicalb := hgrown.canonical.diagrams b.diagram (hgrown.diagrams _ hb)
    exact hcanonicala.ext hgrown.canonical.nodup hcanonicalb hnana hnanb

/-- The theorem applies, for example, to the diagram of a formula and its square, which is made in another way. -/
theorem equal_iff_evaluate_square : ∃ w a b, (fresh .standard 0).Run w ∧ a ∈ w.diagrams ∧ b ∈ w.diagrams ∧
    Operand.operate .mul (.diagram a) (.diagram a) = .ok b ∧ (Handle.mk 0 a).equal ⟨1, b⟩ = true := by
  obtain ⟨w, r, hrun, hmade⟩ := exists_run
  generalize ha : Diagram.ofRegion w.space.owner r = a at hmade
  have hoperate : Operand.operate .mul (.diagram a) (.diagram a) = .ok (a.mul a) := by
    simp [Operand.operate, Operand.owner?, Operand.toDiagram, Diagram.operate]
  have howner : a.owner = w.space.owner := by
    rw [← ha]
    rfl
  have hoffers : w.Offers (.diagram a) := Or.inl hmade
  have hsquared : w.Makes (a.mul a) := .operated hoffers hoffers hoperate howner
  have hrun' : (fresh .standard 0).Run { w with diagrams := a.mul a :: w.diagrams } := hrun.tail (.made hsquared)
  -- one and zero are their own squares
  have hvalue : ∀ y, (a.mul a).valueAt y = a.valueAt y := by
    intro y
    have hwell : a.WellFormed := by
      rw [← ha]
      exact Diagram.wellFormed_ofRegion _ r
    rw [Diagram.valueAt_mul hwell hwell, ← ha, Diagram.valueAt_ofRegion]
    split
    · exact Owner.product_one _
    · exact Owner.product_zero _ _
  have hnan : a.hasNaN = false := by
    rw [← ha]
    exact hasNaN_ofRegion w.space.owner r
  have hnan' : (a.mul a).hasNaN = false := by
    refine ((canonical_of_run hrun').diagrams _ List.mem_cons_self).hasNaN_eq_false fun y => ?_
    rw [hvalue]
    exact Diagram.Canonical.isNaN_valueAt hnan y
  have hmade' : a ∈ a.mul a :: w.diagrams := List.mem_cons_of_mem _ hmade
  have hserial : (0 : Nat) = 1 → Handle.mk 0 a = ⟨1, a.mul a⟩ := fun h => absurd h Nat.zero_ne_one
  have hequal :=
    equal_iff_evaluate hrun' .refl (a := ⟨0, a⟩) (b := ⟨1, a.mul a⟩) hmade' List.mem_cons_self hnan hnan'
    hserial
  exact ⟨_, a, a.mul a, hrun', hmade', List.mem_cons_self, hoperate, hequal.2 fun x => (hvalue _).symm⟩

/-- An expression whose names are bound to diagrams, numbers or anything else is solved exactly if each of its
names is bound to a diagram of the space or to an integer or a float in range, and the arithmetic on the
numbers that its names stand for succeeds at every product. Its solution has these values. Without a solution
the arithmetic fails with the same error at some product, and the error is one of arithmetic or of an operand:
every expression that was read can be carried out. -/
theorem solve_iff_scalar (h : (fresh settings serial).Run w) {bindings : Expression.Bindings}
    (hb : ∀ text operand, bindings.get? text = some operand → w.Offers operand) (e : Expression) :
    ((∃ d, e.solve w.space.owner bindings = .ok d) ↔
      (∀ text ∈ e.freeNames, ∃ operand, bindings.get? text = some operand ∧ operand.Usable w.space.owner) ∧
        ∀ x, ∃ v, e.scalar w.space.owner (bindings.valueAt w.space.owner (w.space.product x)) = .ok v) ∧
    (∀ d, e.solve w.space.owner bindings = .ok d → ∀ x,
      e.scalar w.space.owner (bindings.valueAt w.space.owner (w.space.product x)) = .ok (d.evaluate w.space x)) ∧
    ∀ err, e.solve w.space.owner bindings = .error err →
      (∃ x, e.scalar w.space.owner (bindings.valueAt w.space.owner (w.space.product x)) = .error err) ∧
        err.OfArithmetic ∧ ∀ kind, err.message ≠ "Unexpected expression node " ++ kind := by
  have hcanonical := canonical_of_run h
  have hbindings := hcanonical.bindings hb
  have herror : ∀ err, e.solve w.space.owner bindings = .error err →
      ∃ x, e.scalar w.space.owner (bindings.valueAt w.space.owner (w.space.product x)) = .error err :=
    fun err hsolve => Expression.exists_product_of_error hcanonical.nodup hbindings hsolve
  refine ⟨⟨?_, ?_⟩, ?_, ?_⟩
  · rintro ⟨d, hsolve⟩
    obtain ⟨_, hvalue⟩ := Expression.solve_ok hbindings hsolve
    refine ⟨?_, fun x => ⟨_, hvalue _⟩⟩
    intro text htext
    have hname : text ∈ e.names := (Formula.mem_distinct.1 htext).1
    exact Expression.Bindings.exists_valueAt_iff.1
      (Expression.exists_value_of_scalar (hvalue fun _ => false) text hname)
  · rintro ⟨_, hvalue⟩
    cases hsolve : e.solve w.space.owner bindings with
    | ok d => exact ⟨d, rfl⟩
    | error err =>
      obtain ⟨x, hx⟩ := herror err hsolve
      obtain ⟨v, hv⟩ := hvalue x
      rw [hx] at hv
      cases hv
  · exact fun d hsolve x => (Expression.solve_ok hbindings hsolve).2 _
  · intro err hsolve
    obtain ⟨x, hx⟩ := herror err hsolve
    have harithmetic := Expression.ofArithmetic_scalar hx
    exact ⟨⟨x, hx⟩, harithmetic, harithmetic.message_ne⟩

/-- The theorem applies, for example, to a feature divided by itself, which is zero where the feature is absent. -/
theorem solve_iff_scalar_quotient : ∃ w a d, (fresh .standard 0).Run w ∧ w.AtHand a ∧
    (Expression.binary .div (.name "a") (.name "a")).solve w.space.owner [("a", .diagram a)] = .ok d := by
  obtain ⟨w, r, hrun, hmade⟩ := exists_run
  generalize hd : Diagram.ofRegion w.space.owner r = a at hmade
  have hget (text : String) : Expression.Bindings.get? [("a", .diagram a)] text =
      if text = "a" then some (.diagram a) else none := Expression.Bindings.get?_cons [] "a" text (.diagram a)
  have hbound : ∀ text operand, Expression.Bindings.get? [("a", .diagram a)] text = some operand →
      w.Offers operand := by
    intro text operand h
    rw [hget] at h
    split at h
    · cases h
      exact .inl hmade
    · cases h
  obtain ⟨hsolved, _⟩ := solve_iff_scalar hrun hbound (.binary .div (.name "a") (.name "a"))
  have howner : a.owner = w.space.owner := by rw [← hd]; rfl
  have hnames : ∀ text ∈ (Expression.binary .div (.name "a") (.name "a")).freeNames,
      ∃ operand, Expression.Bindings.get? [("a", .diagram a)] text = some operand ∧
        operand.Usable w.space.owner := by
    intro text htext
    have hname := (Formula.mem_distinct.1 htext).1
    have hname : text = "a" := by simpa [Expression.names] using hname
    exact ⟨.diagram a, by rw [hget, if_pos hname], howner⟩
  have hvalues : ∀ x, ∃ v, (Expression.binary .div (.name "a") (.name "a")).scalar w.space.owner
      (Expression.Bindings.valueAt [("a", .diagram a)] w.space.owner (w.space.product x)) = .ok v := by
    intro x
    have hvalue : Expression.Bindings.valueAt [("a", .diagram a)] w.space.owner (w.space.product x) "a" =
        .ok (a.evaluate w.space x) := by
      rw [Expression.Bindings.valueAt, hget, if_pos rfl]
      exact if_pos howner
    simp only [Expression.scalar, hvalue, Operation.scalar, Operation.compute, Binary64.quotient]
    split
    · exact ⟨_, rfl⟩
    · exact ⟨_, rfl⟩
  obtain ⟨d, hsolve⟩ := hsolved.2 ⟨hnames, hvalues⟩
  exact ⟨w, a, d, hrun, .inl hmade, hsolve⟩

end Results

end Workspace

end ProductLine
