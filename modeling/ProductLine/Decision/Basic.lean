/-!
# Decision trees

A decision tree asks features by level and ends in a truth value. A tree is canonical if levels grow
strictly along every branch and no question has the same answer on both sides. The operations keep
canonical trees canonical (`Above.negate`, `Above.combine`) and mean what they say (`eval_negate`,
`eval_combine`), and a canonical tree is determined by its meaning (`Above.ext`).
-/

namespace ProductLine

/-- A truth value, or a question about the feature at a level with a tree for each answer. -/
inductive Decision where
  | leaf (value : Bool)
  | node (level : Nat) (low high : Decision)
deriving DecidableEq, Inhabited

namespace Decision

/-- The truth value at an assignment of the levels. -/
def eval (x : Nat → Bool) : Decision → Bool
  | leaf b => b
  | node n low high => if x n then high.eval x else low.eval x

/-- A canonical tree that asks no level below `bound`. -/
def Above (bound : Nat) : Decision → Prop
  | leaf _ => True
  | node n low high => bound ≤ n ∧ low ≠ high ∧ low.Above (n + 1) ∧ high.Above (n + 1)

/-- A question, left out if both answers lead to the same tree. -/
def join (level : Nat) (low high : Decision) : Decision :=
  if low = high then low else node level low high

/-- The tree with every truth value turned around. -/
def negate : Decision → Decision
  | leaf b => leaf (!b)
  | node n low high => node n low.negate high.negate

/-- The tree with a function applied to every truth value. -/
def mapLeaves (f : Bool → Bool) (t : Decision) : Decision :=
  match f false, f true with
  | false, false => leaf false
  | true, true => leaf true
  | false, true => t
  | true, false => t.negate

/-- Asks a level before or inside a tree, where `low` and `high` treat what remains of the tree. -/
def merge (level : Nat) (low high : Decision → Decision) : Decision → Decision
  | leaf b => join level (low (leaf b)) (high (leaf b))
  | node m l h =>
    if level < m then join level (low (node m l h)) (high (node m l h))
    else if m < level then join m (merge level low high l) (merge level low high h)
    else join level (low l) (high h)

/-- The tree of a binary operation on truth values. -/
def combine (op : Bool → Bool → Bool) : Decision → Decision → Decision
  | leaf a => mapLeaves (op a)
  | node n low high => merge n (combine op low) (combine op high)

/-- The tree with the question at a level answered. A tree that begins below the level does not ask it. -/
def restrict (level : Nat) (answer : Bool) : Decision → Decision
  | leaf b => leaf b
  | node n low high =>
    if n = level then (if answer then high else low)
    else if level < n then node n low high
    else join n (low.restrict level answer) (high.restrict level answer)

/-- Whether the tree asks a level. -/
def asks (level : Nat) : Decision → Bool
  | leaf _ => false
  | node n low high => n == level || low.asks level || high.asks level

/-- A canonical tree above a bound is one above every smaller bound. -/
theorem Above.mono {t : Decision} {a b : Nat} (hab : a ≤ b) (h : t.Above b) : t.Above a := by
  cases t with
  | leaf _ => trivial
  | node n low high => exact ⟨Nat.le_trans hab h.1, h.2⟩

/-- A join takes the branch that its question chooses, also if no question is left. -/
theorem eval_join {n : Nat} {low high : Decision} (x : Nat → Bool) :
    (join n low high).eval x = if x n then high.eval x else low.eval x := by
  unfold join
  split
  · rename_i h
    subst h
    simp
  · rfl

/-- A join of canonical trees above its level is canonical. -/
theorem Above.join {bound n : Nat} {low high : Decision} (hn : bound ≤ n) (hl : low.Above (n + 1))
    (hh : high.Above (n + 1)) : (join n low high).Above bound := by
  unfold Decision.join
  split
  · exact hl.mono (by omega)
  · rename_i hne
    exact ⟨hn, hne, hl, hh⟩

/-- Negating twice gives the tree back. -/
theorem negate_negate (t : Decision) : t.negate.negate = t := by
  induction t with
  | leaf b => simp [negate]
  | node n low high ihl ihh => simp [negate, ihl, ihh]

/-- The negation of a tree has the other answer everywhere. -/
theorem eval_negate (x : Nat → Bool) (t : Decision) : t.negate.eval x = !t.eval x := by
  induction t with
  | leaf b => rfl
  | node n low high ihl ihh =>
    simp only [negate, eval, ihl, ihh]
    split <;> rfl

/-- The negation of a canonical tree is canonical. -/
theorem Above.negate {bound : Nat} {t : Decision} (h : t.Above bound) : t.negate.Above bound := by
  induction t generalizing bound with
  | leaf b => trivial
  | node n low high ihl ihh =>
    obtain ⟨hn, hne, hl, hh⟩ := h
    refine ⟨hn, fun he => hne ?_, ihl hl, ihh hh⟩
    have := congrArg Decision.negate he
    simpa [negate_negate] using this

/-- A function of the leaves is a function of the answer. -/
theorem eval_mapLeaves (f : Bool → Bool) (x : Nat → Bool) (t : Decision) :
    (mapLeaves f t).eval x = f (t.eval x) := by
  unfold mapLeaves
  cases h0 : f false <;> cases h1 : f true <;> cases ht : t.eval x <;> simp [eval, eval_negate, *]

/-- A canonical tree with a function applied to its leaves is canonical. -/
theorem Above.mapLeaves {bound : Nat} {t : Decision} (f : Bool → Bool) (h : t.Above bound) :
    (mapLeaves f t).Above bound := by
  unfold Decision.mapLeaves
  split
  · trivial
  · trivial
  · exact h
  · exact h.negate

/-- A merge gives what its branches give for the question that is answered. -/
theorem eval_merge {n : Nat} {low high : Decision → Decision} {x : Nat → Bool} {g : Bool → Bool → Bool}
    (hl : ∀ t, (low t).eval x = g false (t.eval x)) (hh : ∀ t, (high t).eval x = g true (t.eval x))
    (t : Decision) : (merge n low high t).eval x = g (x n) (t.eval x) := by
  induction t with
  | leaf b =>
    simp only [merge, eval_join, hl, hh]
    cases x n <;> rfl
  | node m l h ihl ihh =>
    simp only [merge]
    split
    · simp only [eval_join, hl, hh]
      cases x n <;> rfl
    · split
      · simp only [eval_join, ihl, ihh, eval]
        split <;> rfl
      · have : m = n := by omega
        subst this
        simp only [eval_join, hl, hh, eval]
        cases x m <;> rfl

/-- A merge with branches that keep trees above its level canonical keeps trees canonical. -/
theorem Above.merge {bound n : Nat} {low high : Decision → Decision} (hn : bound ≤ n)
    (hl : ∀ t, t.Above (n + 1) → (low t).Above (n + 1))
    (hh : ∀ t, t.Above (n + 1) → (high t).Above (n + 1)) {t : Decision} (ht : t.Above bound) :
    (merge n low high t).Above bound := by
  induction t generalizing bound with
  | leaf b => exact Above.join hn (hl _ trivial) (hh _ trivial)
  | node m l h ihl ihh =>
    obtain ⟨hm, hne, hal, hah⟩ := ht
    simp only [Decision.merge]
    split
    · rename_i hlt
      have hnode : (node m l h).Above (n + 1) := ⟨hlt, hne, hal, hah⟩
      exact Above.join hn (hl _ hnode) (hh _ hnode)
    · split
      · exact Above.join hm (ihl (by omega) hal) (ihh (by omega) hah)
      · have : m = n := by omega
        subst this
        exact Above.join hm (hl _ hal) (hh _ hah)

/-- The combination of two trees combines their answers. -/
theorem eval_combine (op : Bool → Bool → Bool) (x : Nat → Bool) (f g : Decision) :
    (combine op f g).eval x = op (f.eval x) (g.eval x) := by
  induction f generalizing g with
  | leaf a => simp [combine, eval_mapLeaves, eval]
  | node n low high ihl ihh =>
    simp only [combine]
    rw [eval_merge (g := fun b v => op (if b then high.eval x else low.eval x) v)]
    · rfl
    · intro t
      simp [ihl]
    · intro t
      simp [ihh]

/-- The combination of two canonical trees is canonical. -/
theorem Above.combine (op : Bool → Bool → Bool) {bound : Nat} {f g : Decision} (hf : f.Above bound)
    (hg : g.Above bound) : (combine op f g).Above bound := by
  induction f generalizing bound g with
  | leaf a => exact hg.mapLeaves _
  | node n low high ihl ihh =>
    obtain ⟨hn, _, hl, hh⟩ := hf
    exact Above.merge hn (fun _ ht => ihl hl ht) (fun _ ht => ihh hh ht) hg

/-- A canonical tree with a question answered is canonical. -/
theorem Above.restrict {bound level : Nat} {answer : Bool} {t : Decision} (h : t.Above bound) :
    (t.restrict level answer).Above bound := by
  induction t generalizing bound with
  | leaf b => trivial
  | node n low high ihl ihh =>
    obtain ⟨hn, hne, hl, hh⟩ := h
    simp only [Decision.restrict]
    split
    · split
      · exact hh.mono (by omega)
      · exact hl.mono (by omega)
    · split
      · exact ⟨hn, hne, hl, hh⟩
      · exact Above.join hn (ihl hl) (ihh hh)

/-- A tree above a level does not look at the level below. -/
theorem Above.eval_update {bound n : Nat} {t : Decision} (h : t.Above bound) (hn : n < bound)
    (x : Nat → Bool) (b : Bool) : t.eval (fun m => if m = n then b else x m) = t.eval x := by
  induction t generalizing bound with
  | leaf _ => rfl
  | node m low high ihl ihh =>
    obtain ⟨hm, _, hl, hh⟩ := h
    have hmn : m ≠ n := by omega
    simp [eval, hmn, ihl hl (by omega), ihh hh (by omega)]

/-- The answer to the first question of a canonical tree fixes the branch. -/
theorem eval_node_update {n : Nat} {low high : Decision} (hl : low.Above (n + 1))
    (hh : high.Above (n + 1)) (x : Nat → Bool) (b : Bool) :
    (node n low high).eval (fun m => if m = n then b else x m) = if b then high.eval x else low.eval x := by
  have el := hl.eval_update (Nat.lt_succ_self n) x b
  have eh := hh.eval_update (Nat.lt_succ_self n) x b
  cases b <;> simp only [eval, if_true] <;> assumption

/-- Two canonical trees with the same meaning are the same tree. -/
theorem Above.ext : {bound : Nat} → {s t : Decision} → s.Above bound → t.Above bound →
    (∀ x, s.eval x = t.eval x) → s = t
  | _, leaf a, leaf b, _, _, h => by simpa [eval] using h fun _ => false
  | _, leaf a, node n low high, _, ⟨_, hne, hl, hh⟩, h => by
    have key (b : Bool) (x : Nat → Bool) : (leaf a).eval x = if b then high.eval x else low.eval x :=
      (h fun m => if m = n then b else x m).trans (eval_node_update hl hh x b)
    have el : leaf a = low := @Above.ext (n + 1) _ _ trivial hl (key false)
    have eh : leaf a = high := @Above.ext (n + 1) _ _ trivial hh (key true)
    exact absurd (el.symm.trans eh) hne
  | _, node n low high, leaf a, ⟨_, hne, hl, hh⟩, _, h => by
    have key (b : Bool) (x : Nat → Bool) : (if b then high.eval x else low.eval x) = (leaf a).eval x :=
      (eval_node_update hl hh x b).symm.trans (h fun m => if m = n then b else x m)
    have el : low = leaf a := @Above.ext (n + 1) _ _ hl trivial (key false)
    have eh : high = leaf a := @Above.ext (n + 1) _ _ hh trivial (key true)
    exact absurd (el.trans eh.symm) hne
  | _, node n low high, node m l r, ⟨hn, hne, hl, hh⟩, ⟨hm, hne', hl', hh'⟩, h => by
    rcases Nat.lt_trichotomy n m with hlt | heq | hgt
    · have above : (node m l r).Above (n + 1) := ⟨hlt, hne', hl', hh'⟩
      have key (b : Bool) (x : Nat → Bool) :
          (if b then high.eval x else low.eval x) = (node m l r).eval x :=
        ((eval_node_update hl hh x b).symm.trans (h _)).trans
          (above.eval_update (Nat.lt_succ_self n) x b)
      exact absurd ((Above.ext hl above (key false)).trans (Above.ext hh above (key true)).symm) hne
    · subst heq
      have key (b : Bool) (x : Nat → Bool) :
          (if b then high.eval x else low.eval x) = if b then r.eval x else l.eval x :=
        ((eval_node_update hl hh x b).symm.trans (h _)).trans (eval_node_update hl' hh' x b)
      rw [Above.ext hl hl' (key false), Above.ext hh hh' (key true)]
    · have above : (node n low high).Above (m + 1) := ⟨hgt, hne, hl, hh⟩
      have key (b : Bool) (x : Nat → Bool) :
          (node n low high).eval x = if b then r.eval x else l.eval x :=
        ((above.eval_update (Nat.lt_succ_self m) x b).symm.trans (h _)).trans
          (eval_node_update hl' hh' x b)
      exact absurd ((Above.ext above hl' (key false)).symm.trans (Above.ext above hh' (key true))) hne'
termination_by _ s t => sizeOf s + sizeOf t

end Decision

end ProductLine
