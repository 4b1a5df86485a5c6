import ProductLine.Diagram.Dot
import ProductLine.Proofs.Diagram.Canonical
import ProductLine.Proofs.Diagram.Partition
import ProductLine.Proofs.Workspace

/-!
# Charts of diagrams

The chart of a diagram is its reduced ordered decision diagram (`Chart.Draws`): questions have two different
answers, ask features of the support in strictly ascending order along every path and lead every product to the box
with its value, and no two vertices stand for one function. Every canonical diagram has such a chart
(`Diagram.Canonical.exists_chart`), and so has every diagram made in a feature space (`exists_chart_of_run`).
-/

namespace ProductLine

namespace Chart

/-- Whether an arrow leads from one vertex to another one. -/
def Follows (chart : Chart) (i j : Nat) : Prop := ∃ a ∈ chart.arrows, a.source = i ∧ a.target = j

/-- The feature that a vertex asks about. -/
def asked (chart : Chart) (i : Nat) : Option String :=
  match chart.vertices[i]? with
  | some (.question feature _ _) => some feature
  | _ => none

/-- The box in which a product ends that takes, at each question, the arrow for whether it has the feature. -/
inductive Ends (chart : Chart) (x : String → Bool) : Nat → Nat → Prop where
  | box {i v} :
    chart.vertices[i]? = some (.box v) →
    Ends chart x i i
  | arrow {v a k} :
    chart.vertices[a.source]? = some v →
    a ∈ chart.arrows →
    a.present = x v.label →
    Ends chart x a.target k →
    Ends chart x a.source k

/-- Whether a product that starts at a vertex ends in a box with a value. -/
def Value (chart : Chart) (x : String → Bool) (i : Nat) (v : Binary64) : Prop :=
  ∃ k, chart.Ends x i k ∧ chart.vertices[k]? = some (.box v)

/-- Whether a chart is the reduced ordered decision diagram of a diagram. -/
structure Draws (chart : Chart) (space : FeatureSpace) (d : Diagram) : Prop where
  question : ∀ i feature low high, chart.vertices[i]? = some (.question feature low high) →
    chart.arrows.filter (·.source = i) = [⟨i, low, false⟩, ⟨i, high, true⟩] ∧ low ≠ high ∧
      low < chart.vertices.length ∧ high < chart.vertices.length
  box : ∀ i v, chart.vertices[i]? = some (.box v) → chart.arrows.filter (·.source = i) = []
  reachable : 0 < chart.vertices.length ∧
    ∀ i < chart.vertices.length, Relation.ReflTransGen chart.Follows 0 i
  ordered : ∀ path : List Nat, path.IsChain chart.Follows →
    (∀ feature ∈ path.filterMap chart.asked, feature ∈ d.support space) ∧
      (path.filterMap chart.asked).Pairwise fun f g => space.level f < space.level g
  ends : ∀ x, ∃ k, (∀ j, chart.Ends x 0 j ↔ j = k) ∧
    chart.vertices[k]? = some (.box (d.evaluate space x)) ∧
      (chart.vertices[k]?).map Vertex.label = some (d.evaluate space x).briefText
  distinct : ∀ i j, i < chart.vertices.length → j < chart.vertices.length →
    (∀ x v, chart.Value x i v ↔ chart.Value x j v) → i = j
  boxes : (∀ (i : Nat) (v : Binary64), chart.vertices[i]? = some (.box v) → v ∈ d.terminals) ∧
    ∀ v ∈ d.terminals, ∃ i, ∀ j : Nat, chart.vertices[j]? = some (.box v) ↔ j = i

/-! Arrows -/

/-- The arrows of one vertex. -/
def arrowsOf (v : Vertex) (i : Nat) : List Arrow :=
  match v with
  | .question _ low high => [⟨i, low, false⟩, ⟨i, high, true⟩]
  | .box _ => []

/-- The arrows of a node start at it. -/
lemma source_of_mem_arrowsOf {v : Vertex} {i : Nat} {a : Arrow} (h : a ∈ arrowsOf v i) : a.source = i := by
  cases v with
  | box => cases h
  | question feature low high =>
    simp only [arrowsOf, List.mem_cons, List.not_mem_nil, or_false] at h
    rcases h with rfl | rfl <;> rfl

/-- The arrows that begin at a vertex are its own. -/
lemma filter_arrows (vertices : List Vertex) (start i : Nat) :
    ((vertices.zipIdx start).flatMap fun (v, j) => arrowsOf v j).filter (·.source = i) =
      if i < start then [] else ((vertices[i - start]?).map fun v => arrowsOf v i).getD [] := by
  induction vertices generalizing start with
  | nil => simp
  | cons v vertices ih =>
    rw [List.zipIdx_cons, List.flatMap_cons, List.filter_append, ih]
    rcases Nat.lt_trichotomy i start with hlt | rfl | hgt
    · have hnone : (arrowsOf v start).filter (·.source = i) = [] := by
        refine List.filter_eq_nil_iff.2 fun a ha => ?_
        have := source_of_mem_arrowsOf ha
        simp only [decide_eq_true_eq]
        omega
      rw [hnone, if_pos hlt, if_pos (by omega)]
      rfl
    · have hall : (arrowsOf v i).filter (·.source = i) = arrowsOf v i := by
        refine List.filter_eq_self.2 fun a ha => ?_
        simpa using source_of_mem_arrowsOf ha
      rw [hall, if_pos (by omega), if_neg (by omega)]
      simp
    · have hnone : (arrowsOf v start).filter (·.source = i) = [] := by
        refine List.filter_eq_nil_iff.2 fun a ha => ?_
        have := source_of_mem_arrowsOf ha
        simp only [decide_eq_true_eq]
        omega
      rw [hnone, if_neg (by omega), if_neg (by omega), List.nil_append,
        show i - start = i - (start + 1) + 1 by omega, List.getElem?_cons_succ]

/-- The arrows of a chart are those of its nodes, one node after the other. -/
lemma arrows_eq (chart : Chart) : chart.arrows = chart.vertices.zipIdx.flatMap fun (v, i) => arrowsOf v i := by
  rw [arrows]
  refine List.flatMap_congr fun e _ => ?_
  obtain ⟨v, i⟩ := e
  cases v <;> rfl

variable {chart : Chart} {i : Nat}

/-- Two arrows start at a question, to the node for each answer. -/
lemma filter_arrows_question {feature : String} {low high : Nat}
    (h : chart.vertices[i]? = some (.question feature low high)) :
    chart.arrows.filter (·.source = i) = [⟨i, low, false⟩, ⟨i, high, true⟩] := by
  rw [arrows_eq, filter_arrows, if_neg (by omega), Nat.sub_zero, h]
  rfl

/-- No arrow starts at a box. -/
lemma filter_arrows_box {v : Binary64} (h : chart.vertices[i]? = some (.box v)) :
    chart.arrows.filter (·.source = i) = [] := by
  rw [arrows_eq, filter_arrows, if_neg (by omega), Nat.sub_zero, h]
  rfl

/-- No arrow starts where there is no node. -/
lemma filter_arrows_none (h : chart.vertices[i]? = none) : chart.arrows.filter (·.source = i) = [] := by
  rw [arrows_eq, filter_arrows, if_neg (by omega), Nat.sub_zero, h]
  rfl

/-- Only questions have arrows, one for either answer. -/
lemma mem_arrows {a : Arrow} (h : a ∈ chart.arrows) :
    ∃ feature low high, chart.vertices[a.source]? = some (.question feature low high) ∧
      a.target = if a.present then high else low := by
  have hmem : a ∈ chart.arrows.filter (·.source = a.source) := List.mem_filter.2 ⟨h, by simp⟩
  cases hv : chart.vertices[a.source]? with
  | none =>
    rw [filter_arrows_none hv] at hmem
    cases hmem
  | some v =>
    cases v with
    | box v =>
      rw [filter_arrows_box hv] at hmem
      cases hmem
    | question feature low high =>
      rw [filter_arrows_question hv] at hmem
      simp only [List.mem_cons, List.not_mem_nil, or_false] at hmem
      refine ⟨feature, low, high, rfl, ?_⟩
      rcases hmem with heq | heq <;> rw [heq] <;> rfl

/-- There is an arrow for each answer to a question. -/
lemma exists_arrow {feature : String} {low high : Nat} (h : chart.vertices[i]? = some (.question feature low high))
    (b : Bool) : (⟨i, if b then high else low, b⟩ : Arrow) ∈ chart.arrows := by
  have hmem : (⟨i, if b then high else low, b⟩ : Arrow) ∈ chart.arrows.filter (·.source = i) := by
    rw [filter_arrows_question h]
    cases b <;> simp
  exact (List.mem_filter.1 hmem).1

/-- A node follows another one exactly if the other one asks a question and has it for an answer. -/
lemma follows_iff {j : Nat} : chart.Follows i j ↔
    ∃ feature low high, chart.vertices[i]? = some (.question feature low high) ∧ (j = low ∨ j = high) := by
  constructor
  · rintro ⟨a, ha, rfl, rfl⟩
    obtain ⟨feature, low, high, hv, htarget⟩ := mem_arrows ha
    refine ⟨feature, low, high, hv, ?_⟩
    rw [htarget]
    cases a.present
    · exact .inl rfl
    · exact .inr rfl
  · rintro ⟨feature, low, high, hv, rfl | rfl⟩
    · exact ⟨_, exists_arrow hv false, rfl, rfl⟩
    · exact ⟨_, exists_arrow hv true, rfl, rfl⟩

variable {x : String → Bool} {k : Nat}

/-- A product in a box stays there. -/
lemma ends_box_iff {v : Binary64} (h : chart.vertices[i]? = some (.box v)) : chart.Ends x i k ↔ k = i := by
  constructor
  · intro hends
    cases hends with
    | box => rfl
    | @arrow w a _ hw ha =>
      obtain ⟨feature, low, high, hv, -⟩ := mem_arrows ha
      rw [h] at hv
      cases hv
  · rintro rfl
    exact .box h

/-- A product at a question goes on to the vertex for whether it has the feature. -/
lemma ends_question_iff {feature : String} {low high : Nat}
    (h : chart.vertices[i]? = some (.question feature low high)) :
    chart.Ends x i k ↔ chart.Ends x (if x feature then high else low) k := by
  constructor
  · intro hends
    cases hends with
    | box hv =>
      rw [h] at hv
      cases hv
    | @arrow w a _ hw ha hpresent hends =>
      obtain ⟨feature', low', high', hv, htarget⟩ := mem_arrows ha
      rw [h] at hv hw
      cases hv
      cases hw
      rwa [htarget, hpresent] at hends
  · exact fun hends => .arrow h (exists_arrow h (x feature)) rfl hends

end Chart

namespace Diagram

open Chart (levels partition vertexOf)

variable {space : FeatureSpace} {d : Diagram}

/-! Where a chart begins -/

/-- The levels drawn are those of declared features on which some region depends. -/
lemma mem_levels {m : Nat} :
    m ∈ levels space d ↔ m < space.features.length ∧ ∃ e ∈ d.regions, e.2.dependsOn m = true := by
  simp only [levels, List.mem_filter, List.mem_range, List.any_eq_true]

/-- The levels drawn are ascending. -/
lemma pairwise_levels (space : FeatureSpace) (d : Diagram) : (levels space d).Pairwise (· < ·) :=
  List.pairwise_lt_range.filter _

/-- A diagram depends on the levels on which one of its regions does, and so does its zero region. -/
lemma dependsOn_of_mem_cover {e : Entry} (he : e ∈ d.cover) {m : Nat} (hm : e.2.dependsOn m = true) :
    ∃ f ∈ d.regions, f.2.dependsOn m = true := by
  rcases List.mem_append.1 he with he | he
  · exact ⟨e, he, hm⟩
  · split at he
    · cases he
    · obtain rfl := List.mem_singleton.1 he
      by_contra hnone
      simp only [not_exists, not_and] at hnone
      obtain ⟨x, hx⟩ := Region.dependsOn_iff.1 hm
      refine hx ?_
      -- no stored region tells the two products apart
      rw [Region.holds_compl, Region.holds_compl, Bool.not_inj_iff, Bool.eq_iff_iff, holds_nonzero, holds_nonzero]
      refine exists_congr fun v => exists_congr fun r => and_congr_right fun hr => ?_
      rw [← Bool.eq_iff_iff]
      by_contra hne
      exact hnone _ hr (Region.dependsOn_iff.2 ⟨x, hne⟩)

/-- The parts of a diagram are the regions of its cover, each with its place there. -/
lemma mem_partition {i : Nat} {r : Region} : (i, r) ∈ partition d ↔ ∃ v, d.cover[i]? = some (v, r) := by
  simp only [partition, List.mem_map, Prod.exists, Prod.mk.injEq, List.mem_zipIdx_iff_getElem?]
  constructor
  · rintro ⟨v, s, j, hj, rfl, rfl⟩
    exact ⟨v, hj⟩
  · rintro ⟨v, hi⟩
    exact ⟨v, r, i, hi, rfl, rfl⟩

/-- The places in a list are ascending. -/
lemma pairwise_zipIdx_snd {α : Type} (l : List α) (start : Nat) :
    (l.zipIdx start).Pairwise fun e f => e.2 < f.2 := by
  have h := List.pairwise_lt_range' (s := start) (n := l.length)
  rw [← List.zipIdx_map_snd start l] at h
  exact List.pairwise_map.1 h

namespace Canonical

/-- The regions with the zero region partition the products by what the diagram depends on. -/
lemma fits_partition (h : d.Canonical space) : (partition d).Fits d.cover.length (levels space d) where
  ascending := List.pairwise_map.2 (pairwise_zipIdx_snd d.cover 0)
  bounded := by
    rintro ⟨i, r⟩ hr
    obtain ⟨v, hv⟩ := mem_partition.1 hr
    exact (List.getElem?_eq_some_iff.1 hv).1
  inhabited := by
    rintro ⟨i, r⟩ hr
    obtain ⟨v, hv⟩ := mem_partition.1 hr
    exact Diagram.ne_empty_of_mem_cover h.wellFormed (List.mem_of_getElem? hv)
  disjoint := by
    have hdisjoint := disjoint_cover h.wellFormed
    rw [← List.zipIdx_map_fst 0 d.cover] at hdisjoint
    have hentries : d.cover.zipIdx.Pairwise fun e f => e.1.2.Disjoint f.1.2 :=
      (List.pairwise_map (f := Prod.fst)).1 hdisjoint
    exact List.pairwise_map.2 hentries
  covers := by
    intro x
    obtain ⟨r, hr, hx⟩ := (takes_cover h.wellFormed (x := x)).2 rfl
    obtain ⟨i, hi⟩ := List.mem_iff_getElem?.1 hr
    exact ⟨(i, r), mem_partition.2 ⟨_, hi⟩, hx⟩
  asks := by
    intro m hm
    obtain ⟨⟨i, r⟩, hr, hdepends⟩ := Partition.dependsOn_iff_mem.1 hm
    obtain ⟨v, hv⟩ := mem_partition.1 hr
    obtain ⟨e, he, hem⟩ := dependsOn_of_mem_cover (List.mem_of_getElem? hv) hdepends
    exact mem_levels.2 ⟨(h.within e he).lt_of_dependsOn hem, e, he, hem⟩

/-- Each product is found at a place of its value. -/
lemma getElem?_place (h : d.Canonical space) (x : Nat → Bool) :
    (d.cover.map Prod.fst)[(partition d).place x]? = some (d.valueAt x) := by
  obtain ⟨r, hr, hx⟩ := (takes_cover h.wellFormed (x := x)).2 rfl
  obtain ⟨i, hi⟩ := List.mem_iff_getElem?.1 hr
  rw [h.fits_partition.place_of_holds (mem_partition.2 ⟨_, hi⟩) hx, List.getElem?_map, hi]
  rfl

/-- No value stands at two places of the cover. -/
lemma place_unique (h : d.Canonical space) (hnan : d.hasNaN = false) {i j : Nat} {v : Binary64}
    (hi : (d.cover.map Prod.fst)[i]? = some v) (hj : (d.cover.map Prod.fst)[j]? = some v) : i = j := by
  obtain ⟨hlti, hvi⟩ := List.getElem?_eq_some_iff.1 hi
  obtain ⟨hltj, hvj⟩ := List.getElem?_eq_some_iff.1 hj
  exact (h.nodup_cover hnan).getElem_inj_iff.1 (hvi.trans hvj.symm)

end Canonical

end Diagram

/-! The chart of the partitions found -/

namespace Chart

open ProductLine.Partition (Explored Leads)

variable {space : FeatureSpace} {d : Diagram} {all : List Partition} {p : Partition} {i k level : Nat}

/-- The chart of some partitions. -/
def drawn (space : FeatureSpace) (d : Diagram) (all : List Partition) : Chart :=
  ⟨all.map (vertexOf space (levels space d) (d.cover.map Prod.fst) all)⟩

/-- The nodes drawn are those of the partitions, in the same order. -/
lemma getElem?_drawn (i : Nat) : (drawn space d all).vertices[i]? =
    (all[i]?).map (vertexOf space (levels space d) (d.cover.map Prod.fst) all) :=
  List.getElem?_map ..

/-- There is a node at a place exactly if there is a partition. -/
lemma lt_length_iff : i < (drawn space d all).vertices.length ↔ ∃ p, all[i]? = some p := by
  rw [drawn, List.length_map]
  constructor
  · exact fun hi => ⟨_, List.getElem?_eq_getElem hi⟩
  · rintro ⟨p, hp⟩
    exact (List.getElem?_eq_some_iff.1 hp).1

/-- A partition with a level to ask is drawn as a question that leads to the partitions left by its answers. -/
lemma vertexOf_of_ask {values : List Binary64} (h : p.ask (levels space d) = some level) :
    vertexOf space (levels space d) values all p = .question (space.nameOf level)
      (all.idxOf (p.restrict level false)) (all.idxOf (p.restrict level true)) := by
  rw [vertexOf, show (levels space d).find? p.dependsOn = some level from h]

/-- A partition with nothing to ask is drawn as a box with the value of its first part. -/
lemma vertexOf_of_ask_eq_none {values : List Binary64} (h : p.ask (levels space d) = none) :
    vertexOf space (levels space d) values all p = .box ((p.head?.bind fun e => values[e.1]?).getD .zero) := by
  rw [vertexOf, show (levels space d).find? p.dependsOn = none from h]

/-- A vertex is a question if and about what its partition has to be asked. -/
lemma question_iff {feature : String} {low high : Nat} :
    (drawn space d all).vertices[i]? = some (.question feature low high) ↔
      ∃ p level, all[i]? = some p ∧ p.ask (levels space d) = some level ∧ feature = space.nameOf level ∧
        low = all.idxOf (p.restrict level false) ∧ high = all.idxOf (p.restrict level true) := by
  rw [getElem?_drawn, Option.map_eq_some_iff]
  constructor
  · rintro ⟨p, hp, hvertex⟩
    cases hask : p.ask (levels space d) with
    | none =>
      rw [vertexOf_of_ask_eq_none hask] at hvertex
      cases hvertex
    | some level =>
      rw [vertexOf_of_ask hask] at hvertex
      cases hvertex
      exact ⟨p, level, hp, hask, rfl, rfl, rfl⟩
  · rintro ⟨p, level, hp, hask, rfl, rfl, rfl⟩
    exact ⟨p, hp, vertexOf_of_ask hask⟩

/-- A level that is asked is that of a feature of the support. -/
lemma level_of_ask (hask : p.ask (levels space d) = some level) : level ∈ levels space d ∧
    space.features[level]? = some (space.nameOf level) ∧ space.nameOf level ∈ d.support space := by
  have hmem : level ∈ levels space d := List.mem_of_find?_eq_some hask
  obtain ⟨hlt, hdepends⟩ := Diagram.mem_levels.1 hmem
  have hname : space.features[level]? = some (space.nameOf level) := by
    rw [FeatureSpace.nameOf, List.getD_eq_getElem?_getD, List.getElem?_eq_getElem hlt, Option.getD_some]
  refine ⟨hmem, hname, List.mem_map.2 ⟨(space.nameOf level, level), List.mem_filter.2 ⟨?_, ?_⟩, rfl⟩⟩
  · exact List.mem_zipIdx_iff_getElem?.2 hname
  · exact List.any_eq_true.2 hdepends

/-- A partition with everything in one part asks nothing. -/
lemma ask_singleton (c : Nat) : Partition.ask (levels space d) [(c, .full)] = none :=
  List.find?_eq_none.2 fun _ _ => Bool.false_ne_true

/-- What was found from the regions of a diagram. -/
structure Found (space : FeatureSpace) (d : Diagram) (all : List Partition) : Prop where
  canonical : d.Canonical space
  explored : Explored (levels space d) [] (partition d) all

namespace Found

variable (h : Found space d all)
include h

/-- No partition is found twice. -/
lemma nodup : all.Nodup := h.explored.nodup List.nodup_nil

/-- The partition of the diagram is found first. -/
lemma head : all[0]? = some (partition d) := by
  rcases h.explored.begins with ⟨hmem, -⟩ | ⟨rest, rfl⟩
  · cases hmem
  · rfl

/-- The partitions found are those to which answers lead from that of the diagram. -/
lemma reached (hp : p ∈ all) : Relation.ReflTransGen (Leads (levels space d)) (partition d) p :=
  (h.explored.reached p hp).resolve_left List.not_mem_nil

/-- The partitions found are partitions of what the answers leave open. -/
lemma fits (hp : p ∈ all) : p.Fits d.cover.length (levels space d) := by
  have hreached := h.reached hp
  clear hp
  induction hreached with
  | refl => exact h.canonical.fits_partition
  | tail _ hleads ih =>
    obtain ⟨level, answer, -, rfl⟩ := hleads
    exact ih.restrict fun m hm _ => ih.asks m hm

/-- What an answer leaves of a partition that is found is found, too. -/
lemma mem_restrict (hp : p ∈ all) (hask : p.ask (levels space d) = some level) (answer : Bool) :
    p.restrict level answer ∈ all :=
  (h.explored.closed p hp).resolve_left List.not_mem_nil _ ⟨level, answer, hask, rfl⟩

/-- A partition stands only where it is found first. -/
lemma getElem?_iff (hp : p ∈ all) : all[i]? = some p ↔ i = all.idxOf p := by
  constructor
  · intro hi
    obtain ⟨hlt, rfl⟩ := List.getElem?_eq_some_iff.1 hi
    exact (h.nodup.idxOf_getElem i hlt).symm
  · rintro rfl
    rw [List.getElem?_eq_getElem (List.idxOf_lt_length_iff.2 hp), List.getElem_idxOf]

/-- An answer that a product gives leaves it at its place. -/
lemma place_restrict (hp : p ∈ all) (level : Nat) (y : Nat → Bool) :
    (p.restrict level (y level)).place y = p.place y := by
  rw [(h.fits hp).place_restrict, Function.update_eq_self]

/-! Boxes -/

/-- The region of all products is found at every place of a partition that is found. -/
lemma singleton_mem (hp : p ∈ all) (y : Nat → Bool) : [(p.place y, .full)] ∈ all := by
  refine Partition.Fits.recurse (motive := fun p => p ∈ all → [(p.place y, .full)] ∈ all) ?_ ?_ (h.fits hp) hp
  · intro p hfits hask hp
    rwa [← hfits.eq_singleton (hfits.ask_eq_none hask) y]
  · intro p level _ hask hlow hhigh hp
    rw [← h.place_restrict hp level y]
    cases y level with
    | false => exact hlow (h.mem_restrict hp hask false)
    | true => exact hhigh (h.mem_restrict hp hask true)

/-- A box is the region of all products at the place of its value. -/
lemma box_iff {v : Binary64} : (drawn space d all).vertices[i]? = some (.box v) ↔
    ∃ c, all[i]? = some [(c, .full)] ∧ (d.cover.map Prod.fst)[c]? = some v := by
  rw [getElem?_drawn, Option.map_eq_some_iff]
  have hvertex (c : Nat) : vertexOf space (levels space d) (d.cover.map Prod.fst) all [(c, .full)] =
      .box ((d.cover.map Prod.fst)[c]?.getD .zero) := vertexOf_of_ask_eq_none (ask_singleton c)
  constructor
  · rintro ⟨p, hp, hbox⟩
    have hmem := List.mem_of_getElem? hp
    cases hask : p.ask (levels space d) with
    | some level =>
      rw [vertexOf_of_ask hask] at hbox
      cases hbox
    | none =>
      have hfits := h.fits hmem
      have hsingleton := hfits.eq_singleton (hfits.ask_eq_none hask) fun _ => false
      have hlt := hfits.place_lt fun _ => false
      rw [hsingleton, hvertex, List.getElem?_map, List.getElem?_eq_getElem hlt] at hbox
      cases hbox
      refine ⟨p.place fun _ => false, by rw [← hsingleton, hp], ?_⟩
      rw [List.getElem?_map, List.getElem?_eq_getElem hlt]
      rfl
  · rintro ⟨c, hp, hv⟩
    exact ⟨_, hp, by rw [hvertex, hv, Option.getD_some]⟩

/-! Following a product -/

/-- A product ends in the box at its place. -/
lemma ends_iff (hi : all[i]? = some p) (x : String → Bool) :
    (drawn space d all).Ends x i k ↔ all[k]? = some [(p.place (space.product x), .full)] := by
  have hmem := List.mem_of_getElem? hi
  refine Partition.Fits.recurse (motive := fun p => p ∈ all → ∀ i, all[i]? = some p →
    ((drawn space d all).Ends x i k ↔ all[k]? = some [(p.place (space.product x), .full)])) ?_ ?_ (h.fits hmem)
    hmem i hi
  · intro p hfits hask hp i hi
    have hsingleton := hfits.eq_singleton (hfits.ask_eq_none hask) (space.product x)
    have hvalue : ∃ v, (d.cover.map Prod.fst)[p.place (space.product x)]? = some v :=
      ⟨_, List.getElem?_eq_getElem (by simpa using hfits.place_lt (space.product x))⟩
    obtain ⟨v, hv⟩ := hvalue
    have hbox := h.box_iff.2 ⟨_, by rw [← hsingleton, hi], hv⟩
    rw [ends_box_iff hbox, ← hsingleton, h.getElem?_iff hp, (h.getElem?_iff hp).1 hi]
  · intro p level _ hask hlow hhigh hp i hi
    obtain ⟨_, hname, -⟩ := level_of_ask hask
    have hproduct : space.product x level = x (space.nameOf level) := by
      simp only [FeatureSpace.product, hname]
    have hnext (answer : Bool) : all[all.idxOf (p.restrict level answer)]? = some (p.restrict level answer) :=
      (h.getElem?_iff (h.mem_restrict hp hask answer)).2 rfl
    have hquestion := question_iff.2 ⟨p, level, hi, hask, rfl, rfl, rfl⟩
    rw [ends_question_iff hquestion, ← hproduct, ← h.place_restrict hp level (space.product x)]
    cases space.product x level with
    | false => exact hlow (h.mem_restrict hp hask false) _ (hnext false)
    | true => exact hhigh (h.mem_restrict hp hask true) _ (hnext true)

/-- A product has the value at its place. -/
lemma value_iff (hi : all[i]? = some p) (x : String → Bool) (v : Binary64) :
    (drawn space d all).Value x i v ↔ (d.cover.map Prod.fst)[p.place (space.product x)]? = some v := by
  have hmem := h.singleton_mem (List.mem_of_getElem? hi) (space.product x)
  constructor
  · rintro ⟨k, hends, hbox⟩
    obtain ⟨c, hc, hv⟩ := h.box_iff.1 hbox
    rw [(h.ends_iff hi x).1 hends] at hc
    cases hc
    exact hv
  · intro hv
    have hk := (h.getElem?_iff hmem).2 rfl
    exact ⟨_, (h.ends_iff hi x).2 hk, h.box_iff.2 ⟨_, hk, hv⟩⟩

/-! The chart as a whole -/

/-- The two answers to a question lead to different vertices. -/
lemma question {feature : String} {low high : Nat}
    (hi : (drawn space d all).vertices[i]? = some (.question feature low high)) :
    low ≠ high ∧ low < (drawn space d all).vertices.length ∧ high < (drawn space d all).vertices.length := by
  obtain ⟨p, level, hp, hask, -, rfl, rfl⟩ := question_iff.1 hi
  have hmem := List.mem_of_getElem? hp
  have hnext (answer : Bool) : all[all.idxOf (p.restrict level answer)]? = some (p.restrict level answer) :=
    (h.getElem?_iff (h.mem_restrict hmem hask answer)).2 rfl
  refine ⟨fun heq => ?_, lt_length_iff.2 ⟨_, hnext false⟩, lt_length_iff.2 ⟨_, hnext true⟩⟩
  have hsame := hnext false
  rw [heq, hnext true] at hsame
  exact (h.fits hmem).restrict_ne (List.find?_some hask) (Option.some.inj hsame).symm

/-- The node of what an answer leaves follows the node that asks. -/
lemma follows_of_ask (hi : all[i]? = some p) (hask : p.ask (levels space d) = some level) (answer : Bool)
    (hk : all[k]? = some (p.restrict level answer)) : (drawn space d all).Follows i k := by
  rw [(h.getElem?_iff (List.mem_of_getElem? hk)).1 hk]
  refine follows_iff.2 ⟨_, _, _, question_iff.2 ⟨p, level, hi, hask, rfl, rfl, rfl⟩, ?_⟩
  cases answer
  · exact .inl rfl
  · exact .inr rfl

/-- Every vertex can be reached from the first. -/
lemma reachable (hi : all[i]? = some p) : Relation.ReflTransGen (drawn space d all).Follows 0 i := by
  have hreached := h.reached (List.mem_of_getElem? hi)
  -- along the way every partition is among those found, so it has a vertex
  suffices hall : p ∈ all ∧ ∀ i, all[i]? = some p → Relation.ReflTransGen (drawn space d all).Follows 0 i from
    hall.2 i hi
  clear hi
  induction hreached with
  | refl =>
    have hmem := List.mem_of_getElem? h.head
    refine ⟨hmem, fun i hi => ?_⟩
    rw [(h.getElem?_iff hmem).1 hi, ← (h.getElem?_iff hmem).1 h.head]
  | tail _ hleads ih =>
    obtain ⟨level, answer, hask, rfl⟩ := hleads
    refine ⟨h.mem_restrict ih.1 hask answer, fun i hi => ?_⟩
    have hbefore := (h.getElem?_iff ih.1).2 rfl
    exact (ih.2 _ hbefore).tail (h.follows_of_ask hbefore hask answer hi)

/-- A question that follows another one asks about a later feature. -/
lemma level_lt {feature feature' : String} {low high low' high' : Nat}
    (hi : (drawn space d all).vertices[i]? = some (.question feature low high)) (hk : k = low ∨ k = high)
    (hk' : (drawn space d all).vertices[k]? = some (.question feature' low' high'))
    (hspace : space.features.Nodup) : space.level feature < space.level feature' := by
  obtain ⟨p, level, hp, hask, rfl, rfl, rfl⟩ := question_iff.1 hi
  obtain ⟨q, level', hq, hask', rfl, -, -⟩ := question_iff.1 hk'
  have hmem := List.mem_of_getElem? hp
  have hleads : ∃ answer, q = p.restrict level answer := by
    rcases hk with rfl | rfl
    · exact ⟨false, Option.some.inj (hq.symm.trans ((h.getElem?_iff (h.mem_restrict hmem hask false)).2 rfl))⟩
    · exact ⟨true, Option.some.inj (hq.symm.trans ((h.getElem?_iff (h.mem_restrict hmem hask true)).2 rfl))⟩
  obtain ⟨answer, rfl⟩ := hleads
  have hdepends : (p.restrict level answer).dependsOn level' = true := List.find?_some hask'
  obtain ⟨hne, hdepends⟩ := Partition.dependsOn_restrict hdepends
  -- the first level on which the partition depends was asked, so the other one comes after it
  have hlt : level < level' := by
    obtain ⟨_, front, rest, hlevels, hfront⟩ := List.find?_eq_some_iff_append.1 hask
    have hlevel' : level' ∈ front ++ level :: rest := hlevels ▸ (h.fits hmem).asks level' hdepends
    have hsorted := Diagram.pairwise_levels space d
    rw [hlevels] at hsorted
    rcases List.mem_append.1 hlevel' with hlevel' | hlevel'
    · have := hfront level' hlevel'
      rw [hdepends] at this
      cases this
    · have hrest := (List.mem_cons.1 hlevel').resolve_left hne
      exact (List.pairwise_cons.1 (List.pairwise_append.1 hsorted).2.1).1 level' hrest
  have hlevel {m : Nat} (hm : space.features[m]? = some (space.nameOf m)) : space.level (space.nameOf m) = m := by
    obtain ⟨hlt, hname⟩ := List.getElem?_eq_some_iff.1 hm
    rw [FeatureSpace.level, ← hname, hspace.idxOf_getElem m hlt]
  rwa [hlevel (level_of_ask hask).2.1, hlevel (level_of_ask hask').2.1]

end Found

/-- A node asks a feature exactly if it is a question with this feature. -/
lemma asked_eq_some_iff {chart : Chart} {feature : String} : chart.asked i = some feature ↔
    ∃ low high, chart.vertices[i]? = some (.question feature low high) := by
  rw [asked]
  constructor
  · intro hasked
    split at hasked
    · rename_i low high hv
      cases hasked
      exact ⟨low, high, hv⟩
    · cases hasked
  · rintro ⟨low, high, hv⟩
    rw [hv]

/-- If features ascend along every arrow from question to question, they do along every path. -/
lemma pairwise_path {chart : Chart} {rank : String → Nat}
    (hlt : ∀ i k f g, chart.Follows i k → chart.asked i = some f → chart.asked k = some g → rank f < rank g)
    {path : List Nat} (hpath : path.IsChain chart.Follows) :
    (path.filterMap chart.asked).Pairwise fun f g => rank f < rank g := by
  have hasks {i k : Nat} (hfollows : chart.Follows i k) : ∃ f, chart.asked i = some f := by
    obtain ⟨feature, low, high, hv, -⟩ := follows_iff.1 hfollows
    exact ⟨feature, asked_eq_some_iff.2 ⟨low, high, hv⟩⟩
  induction path with
  | nil => exact .nil
  | cons i rest ih =>
    cases rest with
    | nil =>
      rw [List.filterMap_cons, List.filterMap_nil]
      split
      · exact .nil
      · exact List.pairwise_singleton _ _
    | cons k rest =>
      obtain ⟨hik, hrest⟩ := List.isChain_cons_cons.1 hpath
      obtain ⟨f, hf⟩ := hasks hik
      have hlater := ih hrest
      rw [List.filterMap_cons_some hf]
      refine List.pairwise_cons.2 ⟨fun g hg => ?_, hlater⟩
      cases hk : chart.asked k with
      | some f' =>
        rw [List.filterMap_cons_some hk] at hg hlater
        rcases List.mem_cons.1 hg with rfl | hg
        · exact hlt i k f _ hik hf hk
        · exact Nat.lt_trans (hlt i k f f' hik hf hk) ((List.pairwise_cons.1 hlater).1 g hg)
      | none =>
        -- a path does not go on behind a box
        cases rest with
        | nil => simp [hk] at hg
        | cons l rest =>
          obtain ⟨f', hf'⟩ := hasks (List.isChain_cons_cons.1 hrest).1
          rw [hk] at hf'
          cases hf'

namespace Found

/-- Two vertices that stand for the same function are one. -/
lemma eq_of_value (h : Found space d all) (hspace : space.features.Nodup) (hnan : d.hasNaN = false) {i j : Nat}
    (hi : i < (drawn space d all).vertices.length) (hj : j < (drawn space d all).vertices.length)
    (hsame : ∀ x v, (drawn space d all).Value x i v ↔ (drawn space d all).Value x j v) : i = j := by
  obtain ⟨p, hp⟩ := lt_length_iff.1 hi
  obtain ⟨q, hq⟩ := lt_length_iff.1 hj
  have hfitsp := h.fits (List.mem_of_getElem? hp)
  have hfitsq := h.fits (List.mem_of_getElem? hq)
  have hproduct (x : String → Bool) : p.place (space.product x) = q.place (space.product x) := by
    have hltp : p.place (space.product x) < (d.cover.map Prod.fst).length := by simpa using hfitsp.place_lt _
    have hvalue := (hsame x _).1 ((h.value_iff hp x _).2 (List.getElem?_eq_getElem hltp))
    rw [h.value_iff hq x] at hvalue
    exact h.canonical.place_unique hnan (List.getElem?_eq_getElem hltp) hvalue
  have hplace (y : Nat → Bool) : p.place y = q.place y := by
    obtain ⟨x, hx⟩ := FeatureSpace.exists_product hspace y
    have hcongr {r : Partition} (hr : r.Fits d.cover.length (levels space d)) :
        r.place (space.product x) = r.place y :=
      Partition.place_congr fun m hm => hx m (Diagram.mem_levels.1 (hr.asks m hm)).1
    rw [← hcongr hfitsp, ← hcongr hfitsq, hproduct x]
  rw [hfitsp.ext hfitsq hplace] at hp
  rw [(h.getElem?_iff (List.mem_of_getElem? hq)).1 hp, (h.getElem?_iff (List.mem_of_getElem? hq)).1 hq]

/-- Boxes are labelled with values that the diagram takes. -/
lemma mem_terminals_of_box (h : Found space d all) {i : Nat} {v : Binary64}
    (hi : (drawn space d all).vertices[i]? = some (.box v)) : v ∈ d.terminals := by
  obtain ⟨c, -, hv⟩ := h.box_iff.1 hi
  exact Diagram.mem_terminals_iff_cover.2 (List.mem_of_getElem? hv)

/-- Each value that the diagram takes has one box. -/
lemma exists_box (h : Found space d all) (hnan : d.hasNaN = false) {v : Binary64} (hv : v ∈ d.terminals) :
    ∃ i, ∀ j : Nat, (drawn space d all).vertices[j]? = some (.box v) ↔ j = i := by
  obtain ⟨e, he, rfl⟩ := List.mem_map.1 (Diagram.mem_terminals_iff_cover.1 hv)
  obtain ⟨y, hy⟩ := Region.exists_holds (Diagram.ne_empty_of_mem_cover h.canonical.wellFormed he)
  have hvalue := h.canonical.getElem?_place y
  rw [(Diagram.takes_cover h.canonical.wellFormed).1 ⟨e.2, he, hy⟩] at hvalue
  have hmem := h.singleton_mem (List.mem_of_getElem? h.head) y
  refine ⟨all.idxOf [((partition d).place y, .full)], fun j => ?_⟩
  rw [h.box_iff, ← h.getElem?_iff hmem]
  constructor
  · rintro ⟨c, hc, hcv⟩
    rwa [h.canonical.place_unique hnan hvalue hcv]
  · exact fun hj => ⟨_, hj, hvalue⟩

/-- What was found from the regions of a diagram without values that are no number draws the diagram. -/
theorem draws (h : Found space d all) (hspace : space.features.Nodup) (hnan : d.hasNaN = false) :
    (drawn space d all).Draws space d where
  question i feature low high hi := ⟨filter_arrows_question hi, h.question hi⟩
  box i v hi := filter_arrows_box hi
  reachable := by
    refine ⟨lt_length_iff.2 ⟨_, h.head⟩, fun i hi => ?_⟩
    obtain ⟨p, hp⟩ := lt_length_iff.1 hi
    exact h.reachable hp
  ordered := by
    intro path hpath
    refine ⟨fun feature hfeature => ?_, pairwise_path ?_ hpath⟩
    · obtain ⟨i, -, hi⟩ := List.mem_filterMap.1 hfeature
      obtain ⟨low, high, hv⟩ := asked_eq_some_iff.1 hi
      obtain ⟨p, level, -, hask, rfl, -, -⟩ := question_iff.1 hv
      exact (level_of_ask hask).2.2
    · intro i k f g hfollows hf hg
      obtain ⟨feature, low, high, hv, hk⟩ := follows_iff.1 hfollows
      obtain ⟨low', high', hv'⟩ := asked_eq_some_iff.1 hg
      rw [asked_eq_some_iff.2 ⟨low, high, hv⟩] at hf
      cases hf
      exact h.level_lt hv hk hv' hspace
  ends := by
    intro x
    have hmem := h.singleton_mem (List.mem_of_getElem? h.head) (space.product x)
    have hvalue := h.canonical.getElem?_place (space.product x)
    have hbox := h.box_iff.2 ⟨_, (h.getElem?_iff hmem).2 rfl, hvalue⟩
    refine ⟨_, fun j => ?_, hbox, ?_⟩
    · rw [h.ends_iff h.head x, h.getElem?_iff hmem]
    · rw [hbox]
      rfl
  distinct _ _ hi hj hsame := h.eq_of_value hspace hnan hi hj hsame
  boxes := ⟨fun _ _ hi => h.mem_terminals_of_box hi, fun _ hv => h.exists_box hnan hv⟩

end Found

end Chart

/-- A diagram without values that are no number has a chart, and the chart draws it. -/
theorem Diagram.Canonical.exists_chart {space : FeatureSpace} {d : Diagram} (h : d.Canonical space)
    (hspace : space.features.Nodup) (hnan : d.hasNaN = false) :
    ∃ chart, Chart.ofDiagram? space d = some chart ∧ Chart.ofDiagram space d = chart ∧ chart.Draws space d := by
  have hnodup : ([] ++ Chart.levels space d).Nodup := (Diagram.pairwise_levels space d).imp Nat.ne_of_lt
  obtain ⟨all, hall, hexplored⟩ := Partition.exists_explore hnodup [] h.fits_partition
  have hchart : Chart.ofDiagram? space d = some (Chart.drawn space d all) := by
    rw [Chart.ofDiagram?, hall]
    rfl
  have hfound : Chart.Found space d all := ⟨h, hexplored⟩
  refine ⟨_, hchart, ?_, hfound.draws hspace hnan⟩
  rw [Chart.ofDiagram, hchart, Option.getD_some]

namespace Workspace

variable {settings : Settings} {serial : Nat} {w : Workspace}

/-- Every diagram made in a feature space, in whatever way, that takes no value that is no number has a chart,
and the chart is its reduced ordered decision diagram. -/
theorem exists_chart_of_run (h : (fresh settings serial).Run w) {d : Diagram} (hd : d ∈ w.diagrams)
    (hnan : d.hasNaN = false) :
    ∃ chart, Chart.ofDiagram? w.space d = some chart ∧ Chart.ofDiagram w.space d = chart ∧ chart.Draws w.space d :=
  ((canonical_of_run h).diagrams d hd).exists_chart (canonical_of_run h).nodup hnan

/-- The theorem applies, for example, to the diagram of a feature. -/
theorem exists_chart_of_run_feature : ∃ w d, (fresh .standard 0).Run w ∧ d ∈ w.diagrams ∧ d.hasNaN = false ∧
    ∃ chart, Chart.ofDiagram? w.space d = some chart ∧ chart.Draws w.space d := by
  obtain ⟨w, r, hrun, hmade⟩ := exists_run
  have hnan := hasNaN_ofRegion w.space.owner r
  obtain ⟨chart, hchart, -, hdraws⟩ := exists_chart_of_run hrun hmade hnan
  exact ⟨w, _, hrun, hmade, hnan, chart, hchart, hdraws⟩

end Workspace

end ProductLine
