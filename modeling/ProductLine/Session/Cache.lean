import ProductLine.Diagram.Handle

/-!
# Caches

A cache keeps the diagram computed for each id and counts the lookups that found one and those that did
not. An id is written once; only clearing forgets it.
-/

namespace ProductLine

/-- Diagrams by id, in the order in which they were put, and how many lookups found one or did not. -/
structure Cache where
  entries : List (String × Handle)
  hits : Nat
  misses : Nat
deriving DecidableEq, Inhabited

namespace Cache

/-- The cache with nothing in it and nothing counted. -/
def empty : Cache := ⟨[], 0, 0⟩

/-- The diagram of an id. -/
def get? (cache : Cache) (id : String) : Option Handle := cache.entries.lookup id

/-- Whether there is a diagram of an id. -/
def contains (cache : Cache) (id : String) : Bool := (cache.get? id).isSome

/-- The number of ids. -/
def size (cache : Cache) : Nat := cache.entries.length

/-- The diagram of an id, the lookup being counted. -/
def lookup (cache : Cache) (id : String) : Option Handle × Cache :=
  match cache.get? id with
  | some handle => (some handle, { cache with hits := cache.hits + 1 })
  | none => (none, { cache with misses := cache.misses + 1 })

/-- Keeps the diagram of an id that has none yet. -/
def put (cache : Cache) (id : String) (handle : Handle) : Except Error Cache :=
  if cache.contains id then .error (.alreadyCached id)
  else .ok { cache with entries := cache.entries ++ [(id, handle)] }

/-- The ids in the order in which they were put. -/
def ids (cache : Cache) : List String := cache.entries.map Prod.fst

/-- A lookup does not change which ids are cached. -/
@[simp] theorem ids_lookup (cache : Cache) (id : String) : (cache.lookup id).2.ids = cache.ids := by
  unfold lookup
  split <;> rfl

/-- An id has a diagram exactly if it was put. -/
theorem contains_iff {cache : Cache} {id : String} : cache.contains id = true ↔ id ∈ cache.ids := by
  simp [contains, get?, ids]

/-- An id is cached exactly if there is a diagram for it. -/
theorem mem_ids_iff {cache : Cache} {id : String} : id ∈ cache.ids ↔ ∃ handle, cache.get? id = some handle := by
  rw [← contains_iff, contains, Option.isSome_iff_exists]

/-- An id is not cached exactly if there is no diagram for it. -/
theorem not_mem_ids_iff {cache : Cache} {id : String} : id ∉ cache.ids ↔ cache.get? id = none := by
  rw [mem_ids_iff, ← Option.isSome_iff_exists, Option.not_isSome_iff_eq_none]

/-- Putting succeeds for a new id only and adds it behind the others. -/
theorem put_ok {cache after : Cache} {id : String} {handle : Handle} (h : cache.put id handle = .ok after) :
    id ∉ cache.ids ∧ after = { cache with entries := cache.entries ++ [(id, handle)] } := by
  unfold put at h
  split at h
  · cases h
  · rename_i hc
    exact ⟨fun hm => hc (contains_iff.2 hm), (Except.ok.inj h).symm⟩

end Cache

end ProductLine
