import Mathlib.Data.Finset.Card
import Mathlib.Data.List.DropRight
import Mathlib.Tactic.Common
import ProductLine.Proofs.Graph.Reachability
import ProductLine.Session.Cache

/-!
# What is asked of caches

Whatever is asked of a cache, what it holds and what it has counted can be read off what was asked and
answered since it was cleared last (`Cache.Accounts`): it holds the first diagram put for each id, and has
counted the lookups that found one and those that did not. Each action keeps the account of those before it
(`Cache.Accounts.perform`), and so does any run of actions (`Cache.accounts_log`).
-/

namespace ProductLine

namespace Cache

/-! What is asked and answered -/

/-- What can be asked of a cache. -/
inductive Action where
  | put (id : String) (handle : Handle)
  | get (id : String)
  | lookup (id : String)
  | contains (id : String)
  | size
  | clear

/-- What a cache answers: that it has done something or refuses it, a diagram or none, whether there is one,
or how many there are. -/
inductive Answer where
  | done
  | refused (e : Error)
  | found (handle : Option Handle)
  | holds (known : Bool)
  | count (size : Nat)

/-- What a cache answers to an action, and the cache after it. What is refused leaves it as it is. -/
def Action.perform (cache : Cache) : Action → Answer × Cache
  | put id handle =>
    match cache.put id handle with
    | .error e => (.refused e, cache)
    | .ok after => (.done, after)
  | get id => (.found (cache.get? id), cache)
  | lookup id => (.found (cache.lookup id).1, (cache.lookup id).2)
  | contains id => (.holds (cache.contains id), cache)
  | size => (.count cache.size, cache)
  | clear => (.done, .empty)

/-- The cache after some actions. -/
def after (cache : Cache) (actions : List Action) : Cache :=
  actions.foldl (fun cache action => (action.perform cache).2) cache

/-- An action and the answer to it. -/
structure Entry where
  action : Action
  answer : Answer

/-- Some actions and the answers to them. -/
def log (cache : Cache) : List Action → List Entry
  | [] => []
  | action :: rest => ⟨action, (action.perform cache).1⟩ :: log (action.perform cache).2 rest

/-- Whether an action forgets the diagrams. -/
def Action.clears : Action → Bool
  | clear => true
  | _ => false

/-- The entries behind the last action that forgot the diagrams. -/
def sinceClear (log : List Entry) : List Entry := log.rtakeWhile fun entry => !entry.action.clears

/-- The id and the diagram of an entry that was to put it, whether it was refused or not. -/
def Entry.put? : Entry → Option (String × Handle)
  | ⟨.put id handle, _⟩ => some (id, handle)
  | _ => none

/-- Whether an entry is a lookup that found a diagram. -/
def Entry.isHit : Entry → Bool
  | ⟨.lookup _, .found (some _)⟩ => true
  | _ => false

/-- Whether an entry is a lookup that found no diagram. -/
def Entry.isMiss : Entry → Bool
  | ⟨.lookup _, .found none⟩ => true
  | _ => false

/-- The ids and diagrams that were to be put, in their order. -/
def puts (log : List Entry) : List (String × Handle) := log.filterMap Entry.put?

/-! What a cache can be asked to tell of it -/

/-- Whether a cache holds the first diagram put for each id, and has counted the lookups, of some entries. -/
structure Accounts (log : List Entry) (cache : Cache) : Prop where
  stored : ∀ id, cache.get? id = (puts log).lookup id
  nodup : cache.ids.Nodup
  hits : cache.hits = log.countP Entry.isHit
  misses : cache.misses = log.countP Entry.isMiss

variable {cache : Cache} {entries : List Entry} {id : String} {handle : Handle}

/-- A lookup does not change what is cached. -/
lemma get?_lookup (cache : Cache) (id other : String) : (cache.lookup id).2.get? other = cache.get? other := by
  rw [lookup]
  split
  · rfl
  · rfl

/-- A diagram for an id that is cached is refused. -/
lemma put_of_mem (h : id ∈ cache.ids) (handle : Handle) : cache.put id handle = .error (.alreadyCached id) := by
  rw [put, if_pos (contains_iff.2 h)]

/-- A diagram for an id that is not cached is added. -/
lemma put_of_not_mem (h : id ∉ cache.ids) (handle : Handle) :
    cache.put id handle = .ok { cache with entries := cache.entries ++ [(id, handle)] } := by
  rw [put, if_neg fun hc => h (contains_iff.1 hc)]

/-- A further diagram for an id is refused and changes nothing. -/
lemma perform_put_of_mem (h : id ∈ cache.ids) (handle : Handle) :
    (Action.put id handle).perform cache = (.refused (.alreadyCached id), cache) := by
  rw [Action.perform, put_of_mem h]

/-- Putting a diagram for an id that is not cached succeeds and adds it. -/
lemma perform_put_of_not_mem (h : id ∉ cache.ids) (handle : Handle) :
    (Action.put id handle).perform cache = (.done, { cache with entries := cache.entries ++ [(id, handle)] }) := by
  rw [Action.perform, put_of_not_mem h]

/-- A diagram stays where only further actions follow that forget none. -/
lemma get?_perform {action : Action} (hkeeps : action.clears = false) (h : cache.get? id = some handle) :
    (action.perform cache).2.get? id = some handle := by
  cases action with
  | put other given =>
    by_cases hother : other ∈ cache.ids
    · rwa [perform_put_of_mem hother]
    · rw [perform_put_of_not_mem hother]
      rw [get?] at h ⊢
      rw [List.lookup_append, h, Option.some_or]
  | lookup other =>
    rw [Action.perform, get?_lookup]
    exact h
  | clear => cases hkeeps
  | get | contains | size => exact h

/-- What is cached stays cached under actions that do not clear the cache. -/
lemma get?_after {actions : List Action} (hkeeps : ∀ action ∈ actions, action.clears = false)
    (h : cache.get? id = some handle) : (cache.after actions).get? id = some handle := by
  induction actions generalizing cache with
  | nil => exact h
  | cons action rest ih =>
    apply ih fun a ha => hkeeps a (List.mem_cons_of_mem action ha)
    exact get?_perform (hkeeps action List.mem_cons_self) h

/-- An entry that puts nothing adds nothing to what was put. -/
lemma puts_append_of_none {entry : Entry} (h : entry.put? = none) (entries : List Entry) :
    puts (entries ++ [entry]) = puts entries := by
  rw [puts, List.filterMap_append, List.filterMap_cons_none h, List.filterMap_nil, List.append_nil]
  rfl

/-- An entry that puts a diagram adds it to what was put. -/
lemma puts_append_put (entries : List Entry) (id : String) (handle : Handle) (answer : Answer) :
    puts (entries ++ [⟨.put id handle, answer⟩]) = puts entries ++ [(id, handle)] :=
  List.filterMap_append

namespace Accounts

/-- The ids with diagrams are those that were to be put. -/
lemma mem_ids_iff (h : Accounts entries cache) : id ∈ cache.ids ↔ id ∈ (puts entries).map Prod.fst := by
  have hputs : (Cache.mk (puts entries) 0 0).contains id = true ↔ id ∈ (puts entries).map Prod.fst := contains_iff
  rw [← contains_iff, contains, h.stored]
  exact hputs

/-- There are as many diagrams as different ids were to be put. -/
lemma size (h : Accounts entries cache) : cache.size = ((puts entries).map Prod.fst).toFinset.card := by
  calc
    cache.size = cache.ids.length := (List.length_map _).symm
    _ = cache.ids.toFinset.card := (List.toFinset_card_of_nodup h.nodup).symm
    _ = ((puts entries).map Prod.fst).toFinset.card := by
      congr 1
      ext id
      rw [List.mem_toFinset, List.mem_toFinset, h.mem_ids_iff]

/-- The empty cache accounts for no entries. -/
lemma empty : Accounts [] .empty := ⟨fun _ => rfl, .nil, rfl, rfl⟩

/-- An entry that puts nothing and is no lookup changes no account. -/
lemma append_quiet (h : Accounts entries cache) {entry : Entry} (hput : entry.put? = none)
    (hhit : entry.isHit = false) (hmiss : entry.isMiss = false) : Accounts (entries ++ [entry]) cache := by
  constructor
  · intro id
    rw [h.stored, puts_append_of_none hput]
  · exact h.nodup
  · rw [h.hits, List.countP_append, List.countP_singleton, hhit]
    rfl
  · rw [h.misses, List.countP_append, List.countP_singleton, hmiss]
    rfl

/-- A further diagram for an id stands behind the one that is there. -/
lemma append_refused (h : Accounts entries cache) (hid : id ∈ cache.ids) (handle : Handle) (answer : Answer) :
    Accounts (entries ++ [⟨.put id handle, answer⟩]) cache := by
  obtain ⟨old, hold⟩ := Cache.mem_ids_iff.1 hid
  rw [h.stored] at hold
  refine ⟨?_, h.nodup, ?_, ?_⟩
  · intro other
    rw [h.stored, puts_append_put, List.lookup_append]
    by_cases hother : other = id
    · rw [hother, hold, Option.some_or]
    · rw [List.lookup_cons, beq_false_of_ne hother, List.lookup_nil, Option.or_none]
  · rw [h.hits, List.countP_append]
    rfl
  · rw [h.misses, List.countP_append]
    rfl

/-- The account goes on with a diagram that was put for a new id. -/
lemma append_stored (h : Accounts entries cache) (hid : id ∉ cache.ids) (handle : Handle) (answer : Answer) :
    Accounts (entries ++ [⟨.put id handle, answer⟩])
      { cache with entries := cache.entries ++ [(id, handle)] } := by
  refine ⟨?_, ?_, ?_, ?_⟩
  · intro other
    rw [puts_append_put, get?, List.lookup_append, List.lookup_append, ← h.stored other]
    rfl
  · rw [ids, List.map_append]
    exact nodup_append_id h.nodup hid
  · rw [List.countP_append]
    exact h.hits
  · rw [List.countP_append]
    exact h.misses

/-- The account goes on with a lookup. -/
lemma append_lookup (h : Accounts entries cache) (id : String) :
    Accounts (entries ++ [⟨.lookup id, .found (cache.lookup id).1⟩]) (cache.lookup id).2 := by
  refine ⟨?_, ?_, ?_, ?_⟩
  · intro other
    rw [get?_lookup, h.stored, puts_append_of_none rfl]
  · rw [ids_lookup]
    exact h.nodup
  · rw [List.countP_append, ← h.hits, lookup]
    split
    · rfl
    · rfl
  · rw [List.countP_append, ← h.misses, lookup]
    split
    · rfl
    · rfl

/-- An action with its answer is accounted for behind what came before, unless it forgets all. -/
lemma perform (h : Accounts entries cache) {action : Action} (hkeeps : action.clears = false) :
    Accounts (entries ++ [⟨action, (action.perform cache).1⟩]) (action.perform cache).2 := by
  cases action with
  | put id handle =>
    by_cases hid : id ∈ cache.ids
    · rw [perform_put_of_mem hid]
      exact h.append_refused hid handle _
    · rw [perform_put_of_not_mem hid]
      exact h.append_stored hid handle _
  | get id => exact h.append_quiet rfl rfl rfl
  | lookup id => exact h.append_lookup id
  | contains id => exact h.append_quiet rfl rfl rfl
  | size => exact h.append_quiet rfl rfl rfl
  | clear => cases hkeeps

end Accounts

/-- The last action is performed on what the others leave. -/
lemma after_concat (cache : Cache) (actions : List Action) (action : Action) :
    cache.after (actions ++ [action]) = (action.perform (cache.after actions)).2 := by
  rw [after, List.foldl_append]
  rfl

/-- The last action is logged behind the others, with its answer. -/
lemma log_concat (cache : Cache) (actions : List Action) (action : Action) :
    cache.log (actions ++ [action]) =
      cache.log actions ++ [⟨action, (action.perform (cache.after actions)).1⟩] := by
  induction actions generalizing cache with
  | nil => rfl
  | cons first rest ih =>
    rw [List.cons_append, log, log, ih]
    rfl

/-- After any actions on an empty cache, what was asked and answered since it was cleared last accounts for it. -/
theorem accounts_log (actions : List Action) :
    Accounts (sinceClear (Cache.empty.log actions)) (Cache.empty.after actions) := by
  induction actions using List.reverseRecOn with
  | nil => exact .empty
  | append_singleton actions action ih =>
    rw [log_concat, after_concat, sinceClear]
    cases hclears : action.clears with
    | true =>
      rw [List.rtakeWhile_concat_neg _ _ _ (by simp [hclears])]
      cases action with
      | clear => exact .empty
      | _ => cases hclears
    | false =>
      rw [List.rtakeWhile_concat_pos _ _ _ (by simp [hclears])]
      exact ih.perform hclears

end Cache

end ProductLine
