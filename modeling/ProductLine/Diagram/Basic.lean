import ProductLine.FeatureSpace

/-!
# Diagrams

A diagram is a function from products to numbers: for each value other than zero the region of the products
that have it, in ascending order of the values. Zero is the value wherever no region holds. Entries with
one value are kept as one, except that no two values that are no number are the same.
-/

namespace ProductLine

/-- The nonzero values of a function on products, each with its region, and the owner of the space. -/
structure Diagram where
  owner : Owner
  regions : List (Binary64 × Region)
deriving DecidableEq, Inhabited

namespace Diagram

/-- A value and the region where it is taken. -/
abbrev Entry := Binary64 × Region

/-- The place at which a value goes into ascending entries, by halving between `low` and `high`. -/
def bisect (value : Binary64) (entries : List Entry) (low high : Nat) : Nat :=
  if low < high then
    let middle := low + (high - low) / 2
    match entries[middle]? with
    | some (v, _) =>
      if Binary64.lt value v then bisect value entries low middle else bisect value entries (middle + 1) high
    | none => low
  else low
termination_by high - low

/-- Puts an entry behind those whose value is not larger. -/
def insertEntry (sorted : List Entry) (entry : Entry) : List Entry :=
  let place := bisect entry.1 sorted 0 sorted.length
  sorted.take place ++ entry :: sorted.drop place

/-- The leading entries that do not descend after `last`, and the rest. -/
def ascending (last : Binary64) : List Entry → List Entry × List Entry
  | [] => ([], [])
  | e :: rest =>
    if Binary64.lt e.1 last then ([], e :: rest)
    else
      let (run, rest) := ascending e.1 rest
      (e :: run, rest)

/-- The leading entries that descend after `last`, and the rest. -/
def descending (last : Binary64) : List Entry → List Entry × List Entry
  | [] => ([], [])
  | e :: rest =>
    if Binary64.lt e.1 last then
      let (run, rest) := descending e.1 rest
      (e :: run, rest)
    else ([], e :: rest)

/-- Sorts entries some of whose values are no number: the leading run stays together and every further
entry is put in by halving. -/
def arrangeByRun : List Entry → List Entry
  | [] => []
  | [e] => [e]
  | e :: f :: rest =>
    if Binary64.lt f.1 e.1 then
      let (run, rest) := descending f.1 rest
      rest.foldl insertEntry (e :: f :: run).reverse
    else
      let (run, rest) := ascending f.1 rest
      rest.foldl insertEntry (e :: f :: run)

/-- Whether one entry may stand before another in ascending order. -/
def Entry.le (a b : Entry) : Bool := !Binary64.lt b.1 a.1

/-- Sorts entries by value. -/
def arrange (entries : List Entry) : List Entry :=
  if entries.any (·.1.isNaN) then arrangeByRun entries else entries.mergeSort Entry.le

/-- Adds a value with its region to entries: zero is left out, a value that is there already gets the
region too, and what is no number is never there already. -/
def addEntry (entries : List Entry) (entry : Entry) : List Entry :=
  if entry.1 = .zero then entries
  else if !entry.1.isNaN && entries.any (·.1 == entry.1) then
    entries.map fun e => if e.1 = entry.1 then (e.1, e.2.union entry.2) else e
  else entries ++ [entry]

/-- The diagram of values on disjoint regions. -/
def ofEntries (owner : Owner) (entries : List Entry) : Diagram :=
  ⟨owner, arrange (entries.foldl addEntry [])⟩

/-- The diagram that is one in a region and zero outside. -/
def ofRegion (owner : Owner) (r : Region) : Diagram :=
  ⟨owner, if r = .empty then [] else [(.one, r)]⟩

/-- The diagram with one value everywhere. -/
def constant (owner : Owner) (value : Binary64) : Diagram :=
  let value := owner.normalize value
  ⟨owner, if value = .zero then [] else [(value, .full)]⟩

/-- The diagram of a feature. -/
def ofFeature (space : FeatureSpace) (name : String) : Diagram :=
  ofRegion space.owner (.feature (space.level name))

/-- The products where the function is not zero. -/
def nonzero (d : Diagram) : Region := d.regions.foldl (fun r e => r.union e.2) .empty

/-- The values with their regions, zero last if it is taken. Together the regions hold every product. -/
def cover (d : Diagram) : List Entry :=
  let zero := d.nonzero.compl
  d.regions ++ (if zero = .empty then [] else [(.zero, zero)])

/-- The value at a product. -/
def valueAt (d : Diagram) (x : Nat → Bool) : Binary64 :=
  match d.regions.find? (·.2.holds x) with
  | some (value, _) => value
  | none => .zero

/-- The value at a product given by its features. -/
def evaluate (d : Diagram) (space : FeatureSpace) (x : String → Bool) : Binary64 := d.valueAt (space.product x)

/-- The values taken, in ascending order. -/
def terminals (d : Diagram) : List Binary64 := (arrange d.cover).map Prod.fst

/-- The features on which the function depends. -/
def support (d : Diagram) (space : FeatureSpace) : List String :=
  (space.features.zipIdx.filter fun (_, level) => d.regions.any (·.2.dependsOn level)).map Prod.fst

/-- Whether no value other than zero and one is taken. -/
def isBoolean (d : Diagram) : Bool := d.regions.all (·.1 == .one)

/-- Whether one value is taken everywhere. -/
def isConstant (d : Diagram) : Bool := d.terminals.length == 1

/-- Whether a value is taken that is no number. -/
def hasNaN (d : Diagram) : Bool := d.regions.any (·.1.isNaN)

/-- The text of a diagram: its nonzero values in brief with their regions. -/
def text (d : Diagram) (space : FeatureSpace) : String :=
  "ADD(\x7b" ++ ", ".intercalate (d.regions.map fun (v, r) => v.briefText ++ ": " ++ r.text space.nameOf) ++ "\x7d)"

end Diagram

end ProductLine
