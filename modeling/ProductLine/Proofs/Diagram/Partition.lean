import Mathlib.Data.List.Find
import Mathlib.Data.List.Nodup
import Mathlib.Data.List.Pairwise
import Mathlib.Logic.Relation
import Mathlib.Tactic.Common
import ProductLine.Diagram.Chart
import ProductLine.Graph.Basic
import ProductLine.Proofs.Diagram.WellFormed
import ProductLine.Proofs.Region.Restriction

/-!
# Partitions of the products

A chart is drawn by asking one level after the other, each partition into regions of which no answer is empty
going over into one for either answer. A partition is determined by the place that it gives each product
(`Fits.ext`), an answer only fixes the product at a level (`Fits.place_restrict`), and the two answers to a question
that has to be asked lead to different partitions (`Fits.restrict_ne`). So the walk through the partitions never
runs out of levels, and it finds each partition that can be reached once, with both that follow it
(`exists_explore`).
-/

namespace ProductLine

namespace Partition

/-- The place of the region that holds a product. -/
def place (p : Partition) (x : Nat → Bool) : Nat := ((p.find? fun e => e.2.holds x).map Prod.fst).getD 0

/-- Whether the regions, by ascending places below `count`, partition the products by what is known at the given
levels. -/
structure Fits (count : Nat) (levels : List Nat) (p : Partition) : Prop where
  ascending : p.Pairwise fun e f => e.1 < f.1
  bounded : ∀ e ∈ p, e.1 < count
  inhabited : ∀ e ∈ p, e.2 ≠ .empty
  disjoint : p.Pairwise fun e f => e.2.Disjoint f.2
  covers : ∀ x, ∃ e ∈ p, e.2.holds x = true
  asks : ∀ level, p.dependsOn level = true → level ∈ levels

variable {count : Nat} {levels : List Nat} {p q : Partition} {level : Nat} {answer : Bool}

/-- A partition depends on a level exactly if one of its parts does. -/
lemma dependsOn_iff_mem : p.dependsOn level = true ↔ ∃ e ∈ p, e.2.dependsOn level = true := by
  rw [dependsOn, List.any_eq_true]

/-- The parts left by an answer are the restricted parts, except those that are empty. -/
lemma mem_restrict {i : Nat} {s : Region} :
    (i, s) ∈ p.restrict level answer ↔ ∃ r, (i, r) ∈ p ∧ s = r.restrict level answer ∧ s ≠ .empty := by
  simp only [restrict, List.mem_filter, List.mem_map, Prod.exists, Prod.mk.injEq, decide_not,
    Bool.not_eq_true', decide_eq_false_iff_not]
  constructor
  · rintro ⟨⟨j, r, hr, rfl, rfl⟩, hne⟩
    exact ⟨r, hr, rfl, hne⟩
  · rintro ⟨r, hr, rfl, hne⟩
    exact ⟨⟨i, r, hr, rfl, rfl⟩, hne⟩

/-- Answering a question leaves no other questions than those that were there, and not that one. -/
lemma dependsOn_restrict {m : Nat} (h : (p.restrict level answer).dependsOn m = true) :
    m ≠ level ∧ p.dependsOn m = true := by
  obtain ⟨⟨i, s⟩, hs, hm⟩ := dependsOn_iff_mem.1 h
  obtain ⟨r, hr, rfl, -⟩ := mem_restrict.1 hs
  obtain ⟨hne, hdepends⟩ := Region.dependsOn_restrict hm
  exact ⟨hne, dependsOn_iff_mem.2 ⟨_, hr, hdepends⟩⟩

/-- Partitions find a product at the same place if it is the same at all levels that they depend on. -/
lemma place_congr {x y : Nat → Bool} (h : ∀ m, p.dependsOn m = true → x m = y m) : p.place x = p.place y := by
  rw [place, place, List.find?_congr fun e he => ?_]
  exact Region.holds_congr_of_dependsOn fun m hm => h m (dependsOn_iff_mem.2 ⟨e, he, hm⟩)

namespace Fits

/-- A partition fits all levels among which are those it depends on. -/
lemma mono {more : List Nat} (h : p.Fits count levels) (hmore : ∀ m, p.dependsOn m = true → m ∈ more) :
    p.Fits count more :=
  { h with asks := hmore }

/-- No part of a partition is there twice. -/
lemma nodup (h : p.Fits count levels) : p.Nodup := by
  refine h.ascending.imp ?_
  rintro e _ hlt rfl
  exact Nat.lt_irrefl _ hlt

/-! Places -/

/-- There is one part for each place. -/
lemma eq_of_place (h : p.Fits count levels) {e f : Nat × Region} (he : e ∈ p) (hf : f ∈ p) (heq : e.1 = f.1) :
    e = f := by
  have hnodup : (p.map Prod.fst).Nodup := List.pairwise_map.2 (h.ascending.imp Nat.ne_of_lt)
  exact List.inj_on_of_nodup_map hnodup he hf heq

/-- A product is in one part only. -/
lemma eq_of_holds (h : p.Fits count levels) {e f : Nat × Region} {x : Nat → Bool} (he : e ∈ p) (hf : f ∈ p)
    (hex : e.2.holds x = true) (hfx : f.2.holds x = true) : e = f := by
  have hsymm : Std.Symm fun e f : Nat × Region => e.2.Disjoint f.2 := ⟨fun _ _ => Region.Disjoint.symm⟩
  by_contra hne
  exact Region.disjoint_iff.1 (h.disjoint.forall he hf hne) x hex hfx

/-- The place of a product is that of the part it is in. -/
lemma place_of_holds (h : p.Fits count levels) {e : Nat × Region} {x : Nat → Bool} (he : e ∈ p)
    (hx : e.2.holds x = true) : p.place x = e.1 := by
  cases hfind : p.find? fun e => e.2.holds x with
  | none => exact absurd hx (by simpa using List.find?_eq_none.1 hfind e he)
  | some f =>
    have hfx : f.2.holds x = true := by simpa using List.find?_some hfind
    rw [place, hfind, h.eq_of_holds he (List.mem_of_find?_eq_some hfind) hx hfx]
    rfl

/-- A region holds the products with its place. -/
lemma holds_iff (h : p.Fits count levels) {e : Nat × Region} (he : e ∈ p) (x : Nat → Bool) :
    e.2.holds x = true ↔ p.place x = e.1 := by
  constructor
  · exact h.place_of_holds he
  · intro hplace
    obtain ⟨f, hf, hfx⟩ := h.covers x
    rwa [h.eq_of_place he hf (hplace.symm.trans (h.place_of_holds hf hfx))]

/-- Partitions that give every product the same place have the same parts. -/
lemma mem_of_place (h : p.Fits count levels) (h' : q.Fits count levels) (hplace : ∀ x, p.place x = q.place x)
    {e : Nat × Region} (he : e ∈ p) : e ∈ q := by
  obtain ⟨x, hx⟩ := Region.exists_holds (h.inhabited e he)
  obtain ⟨f, hf, hfx⟩ := h'.covers x
  have hfirst : e.1 = f.1 := by
    rw [← h.place_of_holds he hx, hplace, h'.place_of_holds hf hfx]
  have hsecond : e.2 = f.2 := by
    refine Region.ext fun y => ?_
    rw [Bool.eq_iff_iff, h.holds_iff he, h'.holds_iff hf, hplace, hfirst]
  rwa [show e = f from Prod.ext hfirst hsecond]

/-- A partition is determined by the places of the products. -/
theorem ext (h : p.Fits count levels) (h' : q.Fits count levels) (hplace : ∀ x, p.place x = q.place x) :
    p = q := by
  have hmem : ∀ e, e ∈ p ↔ e ∈ q := fun e =>
    ⟨h.mem_of_place h' hplace, h'.mem_of_place h fun x => (hplace x).symm⟩
  have hperm := (List.perm_ext_iff_of_nodup h.nodup h'.nodup).2 hmem
  refine hperm.eq_of_pairwise ?_ h.ascending h'.ascending
  intro e f _ _ hef hfe
  exact absurd hef (Nat.lt_asymm hfe)

/-- The place of a product is one of those counted. -/
lemma place_lt (h : p.Fits count levels) (x : Nat → Bool) : p.place x < count := by
  obtain ⟨e, he, hx⟩ := h.covers x
  rw [h.place_of_holds he hx]
  exact h.bounded e he

/-! Answers -/

/-- What an answer leaves of a partition is a partition of the products with this answer. -/
lemma restrict (h : p.Fits count levels) {rest : List Nat}
    (hrest : ∀ m, p.dependsOn m = true → m ≠ level → m ∈ rest) : (p.restrict level answer).Fits count rest where
  ascending := by
    refine List.Pairwise.sublist List.filter_sublist (List.pairwise_map.2 ?_)
    exact h.ascending
  bounded := by
    rintro ⟨i, s⟩ hs
    obtain ⟨r, hr, -⟩ := mem_restrict.1 hs
    exact h.bounded (i, r) hr
  inhabited := by
    rintro ⟨i, s⟩ hs
    obtain ⟨r, _, _, hne⟩ := mem_restrict.1 hs
    exact hne
  disjoint := by
    refine (List.pairwise_map.2 (h.disjoint.imp fun hdisjoint => ?_)).sublist List.filter_sublist
    refine Region.disjoint_iff.2 fun x hr hs => ?_
    rw [Region.holds_restrict] at hr hs
    exact Region.disjoint_iff.1 hdisjoint _ hr hs
  covers := by
    intro x
    obtain ⟨⟨i, r⟩, hr, hx⟩ := h.covers (Function.update x level answer)
    have hholds : (r.restrict level answer).holds x = true := by rwa [Region.holds_restrict]
    exact ⟨(i, r.restrict level answer), mem_restrict.2 ⟨r, hr, rfl, Region.ne_empty_of_holds hholds⟩, hholds⟩
  asks := by
    intro m hm
    obtain ⟨hne, hdepends⟩ := dependsOn_restrict hm
    exact hrest m hdepends hne

/-- An answer fixes the product at the level. -/
theorem place_restrict (h : p.Fits count levels) (level : Nat) (answer : Bool) (x : Nat → Bool) :
    (p.restrict level answer).place x = p.place (Function.update x level answer) := by
  obtain ⟨⟨i, r⟩, hr, hx⟩ := h.covers (Function.update x level answer)
  have hholds : (r.restrict level answer).holds x = true := by rwa [Region.holds_restrict]
  have hmem : (i, r.restrict level answer) ∈ p.restrict level answer :=
    mem_restrict.2 ⟨r, hr, rfl, Region.ne_empty_of_holds hholds⟩
  have hfits : (p.restrict level answer).Fits count levels := h.restrict fun m hm _ => h.asks m hm
  rw [h.place_of_holds hr hx, hfits.place_of_holds hmem hholds]

/-- The answers to a question that matters lead to different partitions. -/
theorem restrict_ne (h : p.Fits count levels) (hdepends : p.dependsOn level = true) :
    p.restrict level false ≠ p.restrict level true := by
  obtain ⟨e, he, hlevel⟩ := dependsOn_iff_mem.1 hdepends
  obtain ⟨x, hx⟩ := Region.dependsOn_iff.1 hlevel
  intro hsame
  refine hx ?_
  rw [Bool.eq_iff_iff, h.holds_iff he, h.holds_iff he, ← h.place_restrict, ← h.place_restrict, hsame]

/-- A partition has one region exactly if there is nothing to ask. -/
lemma length_eq_one_iff (h : p.Fits count levels) : p.length = 1 ↔ ∀ m, p.dependsOn m = false := by
  constructor
  · intro hlength m
    obtain ⟨e, rfl⟩ := List.length_eq_one_iff.1 hlength
    have hfull : e.2 = .full := by
      refine Region.ext fun x => ?_
      obtain ⟨f, hf, hx⟩ := h.covers x
      rw [← List.mem_singleton.1 hf, hx]
      rfl
    rw [dependsOn, List.any_cons, hfull]
    rfl
  · intro hnone
    have hfull : ∀ e ∈ p, e.2 = .full := by
      intro e he
      obtain ⟨x, hx⟩ := Region.exists_holds (h.inhabited e he)
      refine Region.eq_full_of_not_dependsOn (fun m => ?_) hx
      rw [← Bool.not_eq_true]
      intro hm
      have := dependsOn_iff_mem.2 ⟨e, he, hm⟩
      rw [hnone m] at this
      cases this
    obtain ⟨e, he, -⟩ := h.covers fun _ => false
    refine List.length_eq_one_iff.2 ⟨e, ?_⟩
    have hall : ∀ f ∈ p, f = e := by
      intro f hf
      refine h.eq_of_holds (x := fun _ => false) hf he ?_ ?_
      · rw [hfull f hf]
        rfl
      · rw [hfull e he]
        rfl
    refine List.perm_singleton.1 ((List.perm_ext_iff_of_nodup h.nodup (List.nodup_singleton e)).2 fun f => ?_)
    rw [List.mem_singleton]
    exact ⟨hall f, fun hf => hf ▸ he⟩

/-- A partition with nothing to ask is the region of all products, at the place of each. -/
lemma eq_singleton (h : p.Fits count levels) (hnone : ∀ m, p.dependsOn m = false) (x : Nat → Bool) :
    p = [(p.place x, .full)] := by
  obtain ⟨e, rfl⟩ := List.length_eq_one_iff.1 (h.length_eq_one_iff.2 hnone)
  obtain ⟨f, hf, hx⟩ := h.covers x
  obtain rfl := List.mem_singleton.1 hf
  have hfull : f.2 = .full := by
    refine Region.eq_full_of_not_dependsOn (fun m => ?_) hx
    simpa [dependsOn] using hnone m
  rw [h.place_of_holds hf hx, ← hfull]

end Fits

/-! Questions -/

/-- The level that is asked first, the levels being asked in turn. -/
def ask (levels : List Nat) (p : Partition) : Option Nat := levels.find? p.dependsOn

/-- Whether a partition arises from another one by an answer to the question asked first. -/
def Leads (levels : List Nat) (p q : Partition) : Prop :=
  ∃ level answer, p.ask levels = some level ∧ q = p.restrict level answer

/-- Levels on which a partition does not depend are not asked. -/
lemma ask_append {front rest : List Nat} (hnodup : (front ++ rest).Nodup) (h : p.Fits count rest) :
    p.ask (front ++ rest) = p.ask rest := by
  have hfront : front.find? p.dependsOn = none := by
    refine List.find?_eq_none.2 fun m hm hdepends => ?_
    exact (List.nodup_append.1 hnodup).2.2 m hm m (h.asks m hdepends) rfl
  rw [ask, List.find?_append, hfront, Option.none_or]
  rfl

/-- A partition with nothing to ask depends on no level. -/
lemma Fits.ask_eq_none (h : p.Fits count levels) (hnone : p.ask levels = none) (m : Nat) :
    p.dependsOn m = false := by
  rw [← Bool.not_eq_true]
  intro hm
  exact List.find?_eq_none.1 hnone m (h.asks m hm) hm

/-- What holds where nothing is left to ask, and of a partition if of both that follow it, holds of all. -/
theorem Fits.recurse {motive : Partition → Prop}
    (done : ∀ p : Partition, p.Fits count levels → p.ask levels = none → motive p)
    (step : ∀ (p : Partition) level, p.Fits count levels → p.ask levels = some level →
      motive (p.restrict level false) → motive (p.restrict level true) → motive p)
    (h : p.Fits count levels) : motive p := by
  -- the answer to a question leaves fewer levels to ask
  induction hn : levels.countP p.dependsOn using Nat.strongRecOn generalizing p with
  | ind n ih =>
    cases hask : p.ask levels with
    | none => exact done p h hask
    | some level =>
      have hmem := List.mem_of_find?_eq_some hask
      have hdepends : p.dependsOn level = true := List.find?_some hask
      have hnext (answer : Bool) : motive (p.restrict level answer) := by
        have hfits : (p.restrict level answer).Fits count levels := h.restrict fun m hm _ => h.asks m hm
        refine ih _ ?_ hfits rfl
        rw [← hn]
        refine Graph.countP_lt (fun m _ hm => (dependsOn_restrict hm).2) hmem ?_ hdepends
        rw [← Bool.not_eq_true]
        exact fun hm => (dependsOn_restrict hm).1 rfl
      exact step p level h hask (hnext false) (hnext true)

/-! The walk -/

/-- What the walk from a partition comes to: the partitions it has seen, with those that it finds behind them, each
once. Those it finds can be reached, and with each of them both are there that follow it. -/
structure Explored (levels : List Nat) (seen : List Partition) (p : Partition) (all : List Partition) : Prop where
  begins : p ∈ seen ∧ all = seen ∨ seen ++ [p] <+: all
  nodup : seen.Nodup → all.Nodup
  reached : ∀ q ∈ all, q ∈ seen ∨ Relation.ReflTransGen (Leads levels) p q
  closed : ∀ q ∈ all, q ∈ seen ∨ ∀ r, Leads levels q r → r ∈ all

namespace Explored

variable {seen all : List Partition}

/-- An exploration keeps the partitions seen before. -/
lemma kept (h : Explored levels seen p all) : seen <+: all := by
  rcases h.begins with ⟨-, rfl⟩ | hprefix
  · exact List.prefix_rfl
  · exact (List.prefix_append seen [p]).trans hprefix

/-- An exploration finds the partition from which it starts. -/
lemma found (h : Explored levels seen p all) : p ∈ all := by
  rcases h.begins with ⟨hmem, rfl⟩ | hprefix
  · exact hmem
  · exact hprefix.subset (List.mem_append_right seen List.mem_cons_self)

/-- An exploration from a partition that was seen is over. -/
lemma of_mem (h : p ∈ seen) : Explored levels seen p seen :=
  ⟨.inl ⟨h, rfl⟩, id, fun _ hq => .inl hq, fun _ hq => .inl hq⟩

/-- A partition with nothing to ask is only added. -/
lemma of_ask_eq_none (hnew : p ∉ seen) (h : p.ask levels = none) : Explored levels seen p (seen ++ [p]) where
  begins := .inr List.prefix_rfl
  nodup hseen := by
    refine List.nodup_append.2 ⟨hseen, List.nodup_singleton p, ?_⟩
    rintro q hq _ hp rfl
    exact hnew (List.mem_singleton.1 hp ▸ hq)
  reached q hq := by
    refine (List.mem_append.1 hq).imp_right fun hq => ?_
    rw [List.mem_singleton.1 hq]
  closed q hq := by
    refine (List.mem_append.1 hq).imp_right fun hq => ?_
    rintro r ⟨level, answer, hask, -⟩
    rw [List.mem_singleton.1 hq, h] at hask
    cases hask

/-- A partition with a question is added before what is found from the one answer and then from the other. -/
lemma of_ask {between : List Partition} (hnew : p ∉ seen) (h : p.ask levels = some level)
    (hlow : Explored levels (seen ++ [p]) (p.restrict level false) between)
    (hhigh : Explored levels between (p.restrict level true) all) : Explored levels seen p all where
  begins := .inr (hlow.kept.trans hhigh.kept)
  nodup hseen := by
    refine hhigh.nodup (hlow.nodup (List.nodup_append.2 ⟨hseen, List.nodup_singleton p, ?_⟩))
    rintro q hq _ hp rfl
    exact hnew (List.mem_singleton.1 hp ▸ hq)
  reached q hq := by
    have hstep (answer : Bool) : Leads levels p (p.restrict level answer) := ⟨level, answer, h, rfl⟩
    rcases hhigh.reached q hq with hq | hreach
    · rcases hlow.reached q hq with hq | hreach
      · refine (List.mem_append.1 hq).imp_right fun hq => ?_
        rw [List.mem_singleton.1 hq]
      · exact .inr (.head (hstep false) hreach)
    · exact .inr (.head (hstep true) hreach)
  closed q hq := by
    rcases hhigh.closed q hq with hq | hclosed
    · rcases hlow.closed q hq with hq | hclosed
      · refine (List.mem_append.1 hq).imp_right fun hq => ?_
        rintro r ⟨level', answer, hask, rfl⟩
        rw [List.mem_singleton.1 hq] at hask ⊢
        obtain rfl := Option.some.inj (h.symm.trans hask)
        cases answer with
        | false => exact hhigh.kept.subset hlow.found
        | true => exact hhigh.found
      · exact .inr fun r hr => hhigh.kept.subset (hclosed r hr)
    · exact .inr hclosed

end Explored

/-- The walk never runs out of levels. -/
theorem exists_explore {front rest : List Nat} (hnodup : (front ++ rest).Nodup) (seen : List Partition)
    (h : p.Fits count rest) : ∃ all, explore rest seen p = some all ∧ Explored (front ++ rest) seen p all := by
  induction rest generalizing front seen p with
  | nil =>
    rw [explore]
    by_cases hseen : p ∈ seen
    · exact ⟨seen, if_pos (by simpa using hseen), .of_mem hseen⟩
    · have hnone : ∀ m, p.dependsOn m = false := h.ask_eq_none rfl
      refine ⟨seen ++ [p], ?_, .of_ask_eq_none hseen (List.find?_eq_none.2 fun m _ => by simp [hnone m])⟩
      rw [if_neg (by simpa using hseen), if_pos (h.length_eq_one_iff.2 hnone)]
  | cons level rest ih =>
    rw [explore]
    by_cases hseen : p ∈ seen
    · exact ⟨seen, if_pos (by simpa using hseen), .of_mem hseen⟩
    · rw [if_neg (by simpa using hseen)]
      by_cases hlength : p.length = 1
      · have hnone := h.length_eq_one_iff.1 hlength
        exact ⟨seen ++ [p], if_pos hlength,
          .of_ask_eq_none hseen (List.find?_eq_none.2 fun m _ => by simp [hnone m])⟩
      · rw [if_neg hlength]
        have hcons : (front ++ [level] ++ rest).Nodup := by simpa using hnodup
        have hlevels : front ++ level :: rest = front ++ [level] ++ rest := by simp
        by_cases hdepends : p.dependsOn level = true
        · -- both branches ask for later levels only, and the second goes on from what the first has seen
          have hfits (answer : Bool) : (p.restrict level answer).Fits count rest :=
            h.restrict fun m hm hne => (List.mem_cons.1 (h.asks m hm)).resolve_left hne
          have hask : p.ask (front ++ level :: rest) = some level := by
            rw [ask_append hnodup h, ask, List.find?_cons_of_pos hdepends]
          obtain ⟨between, hbetween, hlow⟩ := ih hcons (seen ++ [p]) (hfits false)
          obtain ⟨all, hall, hhigh⟩ := ih hcons between (hfits true)
          rw [← hlevels] at hlow hhigh
          refine ⟨all, ?_, .of_ask hseen hask hlow hhigh⟩
          rw [if_pos hdepends, hbetween]
          exact hall
        · -- the level is passed over, for the partition asks for later ones only
          have hfits : p.Fits count rest := h.mono fun m hm =>
            (List.mem_cons.1 (h.asks m hm)).resolve_left fun heq => hdepends (heq ▸ hm)
          obtain ⟨all, hall, hexplored⟩ := ih hcons seen hfits
          rw [← hlevels] at hexplored
          exact ⟨all, by rw [if_neg hdepends, hall], hexplored⟩

end Partition

end ProductLine
