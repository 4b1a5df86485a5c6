import Mathlib.Tactic.Common
import ProductLine.Proofs.Graph.Search
import ProductLine.Proofs.Session.Resumption

/-!
# What forbidden products can do

An expression is solved for all products at once and masked afterwards, so it has to have a value at the
forbidden products too, where all children are zero. An evaluation succeeds exactly if every node has a
reliability at every valid product and, as long as any product is forbidden, the expression of every node has
a value where all its children are zero (`succeeds_iff`). Only zero over zero is made up for by the rule of
division: a number over a child makes an evaluation fail that is fine at all valid products
(`error_of_forbidden`).
-/

namespace ProductLine

namespace Graph

/-- Whether the presence conditions below a root are formulas, and the expressions there can be read and name
children only. -/
structure Legible (checker : Checker) (g : Graph) (root : Fin g.size) : Prop where
  presence : ∀ c, g.Reaches root c → ∃ text f, (g.node c).presence = .formula text ∧ Formula.ofText text = .ok f
  expression : ∀ i, g.Reaches root i → ∃ text e, checker (g.node i).model = .ok text ∧
    Expression.parse text = .ok e ∧ ∀ name ∈ e.names, name ∈ (g.children i).map g.id

/-- Whether every node below a root has a reliability at a product that is valid. -/
def HasValues (checker : Checker) (g : Graph) (root : Fin g.size) (space : FeatureSpace) (x : String → Bool) :
    Prop :=
  ∀ i, g.Reaches root i → ∃ v, g.valueAt checker space.owner .one (g.presentAt space x) [] i = .ok v

/-- Whether the expression of every node below a root has a value where all its children are zero. -/
def HasValuesAtZero (checker : Checker) (g : Graph) (root : Fin g.size) (owner : Owner) : Prop :=
  ∀ i, g.Reaches root i → ∀ text e, checker (g.node i).model = .ok text → Expression.parse text = .ok e →
    ∃ v, e.scalar owner (fun _ => .ok .zero) = .ok v

variable {checker : Checker} {owner : Owner} {g : Graph} {root i : Fin g.size} {space : FeatureSpace}
  {present : Fin g.size → Except Error Binary64} {path : List (Fin g.size)} {v : Binary64}

/-- A presence condition that is a formula includes a node or does not, whatever features are declared. -/
lemma Legible.exists_present (h : g.Legible checker root) (hi : g.Reaches root i) (x : String → Bool) :
    ∃ p, ∀ space, g.presentAt space x i = .ok p := by
  obtain ⟨text, f, hformula, hf⟩ := h.presence i hi
  refine ⟨if f.holds x then .one else .zero, fun space => ?_⟩
  rw [presentAt, hformula, Presence.valueAt, hf]
  rfl

/-- Where conditions are legible, whether a node is present does not depend on the space. -/
lemma Legible.presentAt_eq (h : g.Legible checker root) (hi : g.Reaches root i) (space later : FeatureSpace)
    (x : String → Bool) : g.presentAt space x i = g.presentAt later x i := by
  obtain ⟨p, hp⟩ := h.exists_present hi x
  rw [hp, hp]

/-! Where the feature model is zero -/

/-- Where the feature model is zero a node has no other reliability. -/
lemma eq_zero_of_valueAt (h : g.valueAt checker owner .zero present path i = .ok v) : v = .zero := by
  by_cases hi : i ∈ path
  · rw [valueAt, dif_pos hi] at h
    cases h
  · obtain ⟨text, e, hchecker, hparse⟩ := exists_expression h
    rw [valueAt_eq hi hchecker hparse] at h
    generalize e.scalar owner _ = result at h
    cases result with
    | error => cases h
    | ok u =>
      have h : Except.ok (owner.product .zero u) = .ok v := h
      rw [← Except.ok.inj h]
      exact owner.zero_product u

/-- At a forbidden product a child is zero. -/
lemma eq_zero_of_childAt (h : g.childAt checker owner .zero present path i = .ok v) : v = .zero := by
  rw [childAt] at h
  split at h
  · cases h
  · rename_i p hp
    cases hvalue : g.valueAt checker owner .zero present path i with
    | error e =>
      rw [hvalue] at h
      cases h
    | ok u =>
      rw [hvalue, eq_zero_of_valueAt hvalue] at h
      have h : Except.ok (owner.product p .zero) = .ok v := h
      rw [← Except.ok.inj h]
      exact owner.product_zero p

/-- If a node has a reliability there, its expression has a value where all names are zero. -/
lemma exists_scalar_zero (h : g.valueAt checker owner .zero present [] i = .ok v) {text : String}
    (hchecker : checker (g.node i).model = .ok text) {e : Expression} (hparse : Expression.parse text = .ok e) :
    ∃ u, e.scalar owner (fun _ => .ok .zero) = .ok u := by
  rw [valueAt_eq List.not_mem_nil hchecker hparse] at h
  generalize hscalar : e.scalar owner _ = result at h
  cases result with
  | error => cases h
  | ok u =>
    refine ⟨u, ?_⟩
    rw [← hscalar]
    apply Expression.scalar_congr
    intro name hname
    obtain ⟨w, hw⟩ := Expression.exists_value_of_scalar hscalar name hname
    rw [hw]
    split at hw
    · cases hw
    · rw [eq_zero_of_childAt hw]

/-- If the expression of every node below a root has a value where all children are zero, every node has the
reliability zero where the feature model is zero. -/
theorem valueAt_zero (hg : g.WellFormed root) (hlegible : g.Legible checker root)
    (hpresent : ∀ c, g.Reaches root c → ∃ p, present c = .ok p)
    (hzero : g.HasValuesAtZero checker root owner)
    (hi : g.Reaches root i) (hpath : ∀ j ∈ path, ¬ g.Reaches i j) :
    g.valueAt checker owner .zero present path i = .ok .zero := by
  -- the children first
  induction hg.acyclic.acc hg.distinct hi generalizing path with
  | intro i _ ih =>
    obtain ⟨text, e, hchecker, hparse, hnames⟩ := hlegible.expression i hi
    obtain ⟨u, hu⟩ := hzero i hi text e hchecker hparse
    have hnot : i ∉ path := fun hmem => hpath i hmem .refl
    have hsame : ∀ value, (∀ name ∈ e.names, value name = .ok .zero) → e.scalar owner value = .ok u :=
      fun value hvalue => (Expression.scalar_congr hvalue).trans hu
    rw [valueAt_eq hnot hchecker hparse, hsame _ ?_]
    · exact congrArg Except.ok (owner.zero_product u)
    · intro name hname
      obtain ⟨c, hc, rfl⟩ := List.mem_map.1 (hnames name hname)
      obtain ⟨p, hp⟩ := hpresent c (hi.tail hc)
      rw [hg.find?_child hi hc]
      simp only [childAt, hp]
      rw [ih c hc (hi.tail hc) (hg.not_reaches_child hi hc hpath)]
      exact congrArg Except.ok (owner.product_zero p)

end Graph

namespace Session

variable {checker : Checker} {places : Option Nat} {f : Formula} {valid : Diagram} {g : Graph} {root : Fin g.size}
  {s : Session}

section Success

variable (hs : Analyses checker places f valid s) (hlegible : g.Legible checker root) (hg : g.WellFormed root)

include hs hlegible hg

/-- A root is evaluable exactly if all nodes have reliabilities at the valid products and, if any product is
forbidden, values where children are zero. -/
lemma evaluable_iff {later : FeatureSpace} (hlater : s.space.Extends later) :
    g.Evaluable checker valid later root ↔ (∀ x, f.holds x = true → g.HasValues checker root s.space x) ∧
      ((∃ x, f.holds x = false) → g.HasValuesAtZero checker root s.space.owner) := by
  -- the values at a product depend on which nodes it has, which does not change when features are added
  have hpresent (latest : FeatureSpace) (x : String → Bool) (v : Binary64) {i : Fin g.size}
      (hi : g.Reaches root i) :
      g.valueAt checker s.space.owner v (g.presentAt latest x) [] i =
        g.valueAt checker s.space.owner v (g.presentAt s.space x) [] i :=
    Graph.valueAt_congr fun c hc => hlegible.presentAt_eq (hi.trans hc.to_reflTransGen) latest s.space x
  constructor
  · intro h
    constructor
    · intro x hx i hi
      obtain ⟨v, hv⟩ := h.value i hi later (.refl _) x
      rw [hs.holds later hlater x, if_pos hx, ← hs.sound.owner, hpresent later x _ hi] at hv
      exact ⟨v, hv⟩
    · intro ⟨x, hx⟩ i hi text e hchecker hparse
      obtain ⟨v, hv⟩ := h.value i hi later (.refl _) x
      rw [hs.holds later hlater x, if_neg (by simp [hx]), ← hs.sound.owner] at hv
      exact Graph.exists_scalar_zero hv hchecker hparse
  · intro ⟨hvalid, hforbidden⟩
    constructor
    · intro c hc
      obtain ⟨text, f, hformula, hf⟩ := hlegible.presence c hc.to_reflTransGen
      rw [hformula]
      exact ⟨f, hf⟩
    · intro i hi latest hlatest x
      rw [hs.holds latest (hlater.trans hlatest) x, ← hs.sound.owner]
      by_cases hx : f.holds x = true
      · obtain ⟨v, hv⟩ := hvalid x hx i hi
        rw [if_pos hx, hpresent latest x _ hi]
        exact ⟨v, hv⟩
      · rw [if_neg hx]
        refine ⟨.zero, Graph.valueAt_zero hg hlegible ?_ (hforbidden ⟨x, by simpa using hx⟩) hi (by simp)⟩
        intro c hc
        obtain ⟨p, hp⟩ := hlegible.exists_present hc x
        exact ⟨p, hp latest⟩

/-- Where everything cached is settled, these roots can be evaluated and no others. -/
lemma succeeds_iff_of_settled (hsettled : Settled checker valid g root s.space s) :
    (∃ handle after, evaluateNode g root s = (.ok handle, after)) ↔
      (∀ x, f.holds x = true → g.HasValues checker root s.space x) ∧
        ((∃ x, f.holds x = false) → g.HasValuesAtZero checker root s.space.owner) := by
  have hpresence : ∀ c, g.Reaches root c → (g.node c).presence.Canonical s.space := by
    intro c hc
    obtain ⟨text, _, hformula, _⟩ := hlegible.presence c hc
    rw [hformula]
    trivial
  constructor
  · intro ⟨handle, after, heval⟩
    have hspace := (kept_extends s.space).evaluateNode root (.refl _)
    have hafter := hsettled.evaluateNode hs.wellFormed hg hpresence
    rw [heval] at hspace hafter
    exact (evaluable_iff hs hlegible hg hspace).1 (hafter.cached root .refl handle (get?_of_evaluateNode heval)).2
  · intro h
    exact exists_evaluateNode hs.wellFormed hg hpresence ((evaluable_iff hs hlegible hg (.refl _)).2 h) hsettled

/-- All other roots make the evaluation fail. -/
lemma exists_error_of_settled (hsettled : Settled checker valid g root s.space s)
    (h : ¬ ((∀ x, f.holds x = true → g.HasValues checker root s.space x) ∧
      ((∃ x, f.holds x = false) → g.HasValuesAtZero checker root s.space.owner))) :
    ∃ e after, evaluateNode g root s = (.error e, after) := by
  cases hout : evaluateNode g root s with
  | mk result after =>
    cases result with
    | error e => exact ⟨e, after, rfl⟩
    | ok handle => exact absurd ((succeeds_iff_of_settled hs hlegible hg hsettled).1 ⟨handle, after, hout⟩) h

end Success

end Session

/-! The first node of a row -/

namespace Graph

variable {owner : Owner} {top bottom : String} {e : Expression} {n : Nat} {v w : Binary64}
  {present : Fin 3 → Except Error Binary64} {space : FeatureSpace} {x : String → Bool}

/-- A row can be read if its first node names at most the second and its third is a number. -/
lemma legible_row (htop : Expression.parse top = .ok e) (hnames : ∀ name ∈ e.names, name = "c")
    (hbottom : Expression.parse bottom = .ok (.int n)) : (row top bottom).Legible Checker.plain (0 : Fin 3) := by
  have hmiddle : Expression.parse "d" = .ok (.name "d") := by decide +kernel
  constructor
  · intro c _
    exact ⟨"a", .feature "a", presence_row c, Session.ofText_feature⟩
  · intro i _
    match i with
    | 0 => exact ⟨top, e, rfl, htop, fun name hname => List.mem_singleton.2 (hnames name hname)⟩
    | 1 => exact ⟨"d", .name "d", rfl, hmiddle, fun name hname => hname⟩
    | 2 => exact ⟨bottom, .int n, rfl, hbottom, by simp [Expression.names]⟩

/-- The first node has the value of its expression at the number of the third. -/
lemma valueAt_row_first (hv : v = .one ∨ v = .zero) (hw : w = .one ∨ w = .zero) (hpresent : ∀ c, present c = .ok v)
    (hbottom : Expression.parse bottom = .ok (.int n)) (hn : owner.number (.int n) = .ok w)
    (htop : Expression.parse top = .ok e) (hnames : ∀ name ∈ e.names, name = "c") :
    (row top bottom).valueAt Checker.plain owner v present [] (0 : Fin 3) =
      (e.scalar owner fun _ => .ok (owner.product v w)).map (owner.product v) := by
  rw [valueAt_eq List.not_mem_nil rfl htop]
  refine congrArg _ (Expression.scalar_congr fun name hname => ?_)
  obtain rfl := hnames name hname
  have hfind : ((row top bottom).children (0 : Fin 3)).find? ((row top bottom).id · = "c") = some (1 : Fin 3) := rfl
  rw [hfind]
  simp only [childAt, hpresent]
  rw [valueAt_row_middle hv hw hpresent hbottom hn (by simp) (by simp)]
  exact congrArg Except.ok (product_mask hv hw)

section Values

variable (hbottom : Expression.parse bottom = .ok (.int n)) (hn : space.owner.number (.int n) = .ok w)
  (hw : w = .one ∨ w = .zero) (htop : Expression.parse top = .ok e) (hnames : ∀ name ∈ e.names, name = "c")

include hbottom hn hw htop hnames

/-- The nodes of a row have reliabilities at a product with the feature exactly if the expression of the first has a
value at the number of the third. -/
lemma hasValues_row_iff (hx : x "a" = true) :
    (row top bottom).HasValues Checker.plain (0 : Fin 3) space x ↔
      ∃ u, e.scalar space.owner (fun _ => .ok (space.owner.product .one w)) = .ok u := by
  have hpresent (c : Fin 3) : (row top bottom).presentAt space x c = .ok .one := by
    rw [Session.presentAt_row, if_pos hx]
  have hfirst := valueAt_row_first (.inl rfl) hw hpresent hbottom hn htop hnames
  constructor
  · intro h
    obtain ⟨v, hv⟩ := h (0 : Fin 3) .refl
    rw [hfirst] at hv
    cases hscalar : e.scalar space.owner fun _ => .ok (space.owner.product .one w) with
    | ok u => exact ⟨u, rfl⟩
    | error err =>
      rw [hscalar] at hv
      cases hv
  · intro ⟨u, hu⟩ i _
    match i with
    | 0 => exact ⟨space.owner.product .one u, by rw [hfirst, hu]; rfl⟩
    | 1 => exact ⟨_, valueAt_row_middle (.inl rfl) hw hpresent hbottom hn List.not_mem_nil List.not_mem_nil⟩
    | 2 => exact ⟨_, valueAt_row_bottom hbottom hn List.not_mem_nil⟩

omit hw hnames in
/-- Where children are zero, the other nodes of a row have values, so it depends on the first. -/
lemma hasValuesAtZero_row_iff : (row top bottom).HasValuesAtZero Checker.plain (0 : Fin 3) space.owner ↔
    ∃ u, e.scalar space.owner (fun _ => .ok .zero) = .ok u := by
  have hmiddle : Expression.parse "d" = .ok (.name "d") := by decide +kernel
  constructor
  · exact fun h => h (0 : Fin 3) .refl top e rfl htop
  · intro h i _ text expression hchecker hparse
    match i with
    | 0 =>
      obtain rfl : top = text := Except.ok.inj hchecker
      obtain rfl := Except.ok.inj (htop.symm.trans hparse)
      exact h
    | 1 =>
      obtain rfl : "d" = text := Except.ok.inj hchecker
      obtain rfl := Except.ok.inj (hmiddle.symm.trans hparse)
      exact ⟨.zero, rfl⟩
    | 2 =>
      obtain rfl : bottom = text := Except.ok.inj hchecker
      obtain rfl := Except.ok.inj (hbottom.symm.trans hparse)
      exact ⟨w, hn⟩

end Values

end Graph

namespace Session

variable {checker : Checker} {source : String} {f : Formula} {g : Graph} {root : Fin g.size} {s : Session}

/-- When an evaluation succeeds, in a session that was used in any way and whose cache holds correct diagrams
of some nodes, for a root below which no node depends on itself, ids are distinct, presence conditions are
formulas and expressions can be read and name children only: exactly if every node has a reliability at every
valid product and, if any product is forbidden, the expression of every node has a value where all its
children are zero. -/
theorem succeeds_iff {settings : Settings} {serial : Nat} {builder : Option Builder} {s₀ : Session}
    (hstart : start settings serial source checker builder = .ok s₀) (calls : List Call) (cache : Cache)
    (hs : s = { s₀.after calls with cache }) (hf : Formula.ofText source = .ok f) (hacyclic : g.Acyclic root)
    (hdistinct : g.DistinctIds root) (hlegible : g.Legible checker root)
    (hcached : ∀ i, g.Reaches root i → ∀ handle, s.cache.get? (g.id i) = some handle →
      Correct checker settings.places source g root s i handle.diagram) :
    (∃ handle after, evaluateNode g root s = (.ok handle, after)) ↔
      (∀ x, f.holds x = true → g.HasValues checker root s.space x) ∧
        ((∃ x, f.holds x = false) → g.HasValuesAtZero checker root s.space.owner) := by
  obtain ⟨f', hf', hstarted⟩ := Analyses.of_start hstart
  obtain rfl := Except.ok.inj (hf.symm.trans hf')
  have hanalyses := (hstarted.after calls).withCache cache
  rw [← hs] at hanalyses
  have hformula : ∀ c, g.Reaches root c → ∃ text, (g.node c).presence = .formula text := by
    intro c hc
    obtain ⟨text, _, hformula, _⟩ := hlegible.presence c hc
    exact ⟨text, hformula⟩
  have hg : g.WellFormed root := by
    refine ⟨hacyclic, hdistinct, fun c hc => ?_⟩
    obtain ⟨text, htext⟩ := hformula c hc
    rw [htext]
    trivial
  have hpresence : ∀ c, g.Reaches root c → (g.node c).presence.Canonical s.space := by
    intro c hc
    obtain ⟨text, htext⟩ := hformula c hc
    rw [htext]
    trivial
  exact succeeds_iff_of_settled hanalyses hlegible hg (settled_of_correct hf hanalyses hpresence hg hcached)

/-! Examples: one over a child, and one over its complement -/

/-- Zero is read as an integer. -/
lemma parse_zero : Expression.parse "0" = .ok (.int 0) := by decide +kernel

/-- One over a child is read as a quotient. -/
lemma parse_inverse : Expression.parse "1 / c" = .ok (.binary .div (.int 1) (.name "c")) := by decide +kernel

/-- One over the complement of a child is read as a quotient with a difference. -/
lemma parse_inverse_complement : Expression.parse "1 / (1 - c)" =
    .ok (.binary .div (.int 1) (.binary .sub (.int 1) (.name "c"))) := by decide +kernel

/-- An operation on two values has the result of the operation on numbers. -/
lemma scalar_binary {owner : Owner} {value : String → Except Error Binary64} {op : Operation}
    {left right : Expression} {a b : Binary64} (hleft : left.scalar owner value = .ok a)
    (hright : right.scalar owner value = .ok b) :
    (Expression.binary op left right).scalar owner value = op.scalar owner a b := by
  rw [Expression.scalar, hleft]
  simp only [hright]

section Inverse

variable (owner : Owner) {value : String → Except Error Binary64}

/-- The integer one has the value one. -/
lemma scalar_one : (Expression.int 1).scalar owner value = .ok .one := by
  rw [Expression.scalar]
  exact owner.number_one

/-- A name has the value that it stands for. -/
lemma scalar_name {v : Binary64} {text : String} (h : value text = .ok v) :
    (Expression.name text).scalar owner value = .ok v := by
  rw [Expression.scalar, h]

/-- One over one is one. -/
lemma div_one : Operation.div.scalar owner .one .one = .ok .one := by
  have hquotient : Binary64.one.quotient .one = .ok .one := by decide +kernel
  show (Binary64.one.quotient .one).map owner.normalize = _
  rw [hquotient]
  exact congrArg Except.ok owner.normalize_one

/-- One over zero is an error. -/
lemma div_zero : Operation.div.scalar owner .one .zero = .error (.divisionByZero .one) := by
  have hquotient : Binary64.one.quotient .zero = .error (.divisionByZero .one) := by decide +kernel
  show (Binary64.one.quotient .zero).map owner.normalize = _
  rw [hquotient]
  rfl

/-- One over a number has a value at one. -/
lemma inverse_one (h : value "c" = .ok .one) :
    (Expression.binary .div (.int 1) (.name "c")).scalar owner value = .ok .one :=
  (scalar_binary (scalar_one owner) (scalar_name owner h)).trans (div_one owner)

/-- One over a number has no value at zero. -/
lemma inverse_zero (h : value "c" = .ok .zero) :
    (Expression.binary .div (.int 1) (.name "c")).scalar owner value = .error (.divisionByZero .one) :=
  (scalar_binary (scalar_one owner) (scalar_name owner h)).trans (div_zero owner)

/-- One over the complement of a number has a value at zero. -/
lemma inverse_complement_zero (h : value "c" = .ok .zero) :
    (Expression.binary .div (.int 1) (.binary .sub (.int 1) (.name "c"))).scalar owner value = .ok .one := by
  have hzero : Binary64.one - Binary64.zero = .one := by decide +kernel
  have hsub : (Expression.binary .sub (.int 1) (.name "c")).scalar owner value = .ok .one := by
    rw [scalar_binary (scalar_one owner) (scalar_name owner h)]
    show Except.ok (owner.normalize (.one - .zero)) = _
    rw [hzero, owner.normalize_one]
  exact (scalar_binary (scalar_one owner) hsub).trans (div_one owner)

/-- One over the complement of a number has no value at one. -/
lemma inverse_complement_one (h : value "c" = .ok .one) :
    (Expression.binary .div (.int 1) (.binary .sub (.int 1) (.name "c"))).scalar owner value =
      .error (.divisionByZero .one) := by
  have hone : Binary64.one - Binary64.one = .zero := by decide +kernel
  have hsub : (Expression.binary .sub (.int 1) (.name "c")).scalar owner value = .ok .zero := by
    rw [scalar_binary (scalar_one owner) (scalar_name owner h)]
    show Except.ok (owner.normalize (.one - .one)) = _
    rw [hone, owner.normalize_zero]
  exact (scalar_binary (scalar_one owner) hsub).trans (div_zero owner)

end Inverse

/-- A node that is one over the complement of another one, which is zero, is evaluated in a fresh session, as its
expression has a value at forbidden products too. -/
theorem succeeds_iff_row : ∃ s handle after, start .standard 0 "a" Checker.plain none = .ok s ∧
    evaluateNode (Graph.row "1 / (1 - c)" "0") (0 : Fin 3) s = (.ok handle, after) := by
  obtain ⟨s, hstart⟩ := exists_start .standard 0 ofText_feature Checker.plain none
  obtain ⟨_, _, hcache, _⟩ := started hstart
  have hg := Graph.wellFormed_row "1 / (1 - c)" "0"
  have hlegible := Graph.legible_row parse_inverse_complement (by simp [Expression.names]) parse_zero
  have hsucceeds :=
    (succeeds_iff hstart [] s.cache rfl ofText_feature hg.acyclic hg.distinct hlegible ?_).2 ⟨?_, ?_⟩
  · obtain ⟨handle, after, heval⟩ := hsucceeds
    exact ⟨s, handle, after, hstart, heval⟩
  · intro i _ handle hhandle
    rw [hcache] at hhandle
    cases hhandle
  · intro x hx
    rw [Graph.hasValues_row_iff parse_zero (Owner.number_zero _) (.inr rfl) parse_inverse_complement
      (by simp [Expression.names]) hx, Owner.product_zero]
    exact ⟨_, inverse_complement_zero _ rfl⟩
  · intro _
    rw [Graph.hasValuesAtZero_row_iff parse_zero (Owner.number_zero _) parse_inverse_complement]
    exact ⟨_, inverse_complement_zero _ rfl⟩

/-- Reliabilities at all valid products are not enough. At a forbidden product all children are zero, so one
over a child makes a fresh session fail where every node is one at every valid product. And a session that has
cached another node under the id of a child, with the reliability one, fails at one over the complement of the
child, which is zero now, although all expressions have values at forbidden products too. -/
theorem error_of_forbidden :
    ((Graph.row "1 / c" "1").WellFormed (0 : Fin 3) ∧ (Graph.row "1 / c" "1").Legible Checker.plain (0 : Fin 3) ∧
      ∃ s e after, start .standard 0 "a" Checker.plain none = .ok s ∧
        (∀ f, Formula.ofText "a" = .ok f → ∀ x, f.holds x = true →
          (Graph.row "1 / c" "1").HasValues Checker.plain (0 : Fin 3) s.space x) ∧
        evaluateNode (Graph.row "1 / c" "1") (0 : Fin 3) s = (.error e, after)) ∧
    (Graph.row "1 / (1 - c)" "0").WellFormed (0 : Fin 3) ∧
      (Graph.row "1 / (1 - c)" "0").Legible Checker.plain (0 : Fin 3) ∧
      ∃ s₀ s e after, start .standard 0 "a" Checker.plain none = .ok s₀ ∧
        s = s₀.after [.evaluateNode (.single "c" (.formula "a") (.datum (.text "1"))) (0 : Fin 1)] ∧
        (∀ f, Formula.ofText "a" = .ok f → ∀ x, f.holds x = true →
          (Graph.row "1 / (1 - c)" "0").HasValues Checker.plain (0 : Fin 3) s.space x) ∧
        (Graph.row "1 / (1 - c)" "0").HasValuesAtZero Checker.plain (0 : Fin 3) s.space.owner ∧
        evaluateNode (Graph.row "1 / (1 - c)" "0") (0 : Fin 3) s = (.error e, after) := by
  have hholds {f : Formula} {x : String → Bool} (hf : Formula.ofText "a" = .ok f) (hx : f.holds x = true) :
      x "a" = true := by
    obtain rfl := Except.ok.inj (ofText_feature.symm.trans hf)
    exact hx
  have hinverse : ∀ name ∈ (Expression.binary .div (.int 1) (.name "c")).names, name = "c" := by
    simp [Expression.names]
  have hcomplement : ∀ name ∈ (Expression.binary .div (.int 1) (.binary .sub (.int 1) (.name "c"))).names,
      name = "c" := by
    simp [Expression.names]
  constructor
  · have hg := Graph.wellFormed_row "1 / c" "1"
    have hlegible := Graph.legible_row parse_inverse hinverse parse_one
    obtain ⟨s, hstart⟩ := exists_start .standard 0 ofText_feature Checker.plain none
    obtain ⟨_, _, hcache, _⟩ := started hstart
    obtain ⟨f, hf, hs⟩ := Analyses.of_start hstart
    obtain rfl := Except.ok.inj (ofText_feature.symm.trans hf)
    -- at the product without the feature the child is zero
    obtain ⟨e, after, hfail⟩ := exists_error_of_settled hs hlegible hg (.of_empty hs (by rw [hcache]; rfl)) (by
      intro h
      obtain ⟨u, hu⟩ := (Graph.hasValuesAtZero_row_iff parse_one (Owner.number_one _) parse_inverse).1
        (h.2 ⟨fun _ => false, rfl⟩)
      cases hu.symm.trans (inverse_zero s.space.owner (by rfl)))
    refine ⟨hg, hlegible, s, e, after, hstart, fun f hf x hx => ?_, hfail⟩
    rw [Graph.hasValues_row_iff parse_one (Owner.number_one _) (.inl rfl) parse_inverse hinverse (hholds hf hx),
      Owner.product_one]
    exact ⟨_, inverse_one _ rfl⟩
  · obtain ⟨s₀, s, valid, h⟩ := exists_singleUsed
    have hs := h.analyses
    have hlegible := Graph.legible_row parse_inverse_complement hcomplement parse_one
    -- as long as the third node has the number one, what is cached is right, and the first has no value
    obtain ⟨e, after, hfail⟩ := exists_error_of_settled hs hlegible (Graph.wellFormed_row _ _) (h.settled _) (by
      intro hvalues
      have hone := hvalues.1 (fun _ => true) rfl
      rw [Graph.hasValues_row_iff parse_one (Owner.number_one _) (.inl rfl) parse_inverse_complement
        hcomplement rfl, Owner.product_one] at hone
      obtain ⟨u, hu⟩ := hone
      cases hu.symm.trans (inverse_complement_one s.space.owner (by rfl)))
    -- the number of the third node is not read any more
    have hsame := evaluateNode_row_bottom "1 / (1 - c)" "0" "1" ((h.cached "c").2 rfl)
    refine ⟨Graph.wellFormed_row "1 / (1 - c)" "0",
      Graph.legible_row parse_inverse_complement hcomplement parse_zero,
      s₀, s, e, after, h.started, h.used, fun f hf x hx => ?_, ?_, hsame.trans hfail⟩
    · rw [Graph.hasValues_row_iff parse_zero (Owner.number_zero _) (.inr rfl) parse_inverse_complement hcomplement
        (hholds hf hx), Owner.product_zero]
      exact ⟨_, inverse_complement_zero _ rfl⟩
    · rw [Graph.hasValuesAtZero_row_iff parse_zero (Owner.number_zero _) parse_inverse_complement]
      exact ⟨_, inverse_complement_zero _ rfl⟩

end Session

end ProductLine
