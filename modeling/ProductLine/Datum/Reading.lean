import ProductLine.Datum.Basic
import ProductLine.Error

/-!
# Reading data

A datum is read as a value of some type, or all that is wrong with it is found: reading two parts finds the
faults of both, and a fault in a part is placed in that part.
-/

namespace ProductLine

/-- A value that was read, or all that is wrong. -/
abbrev Reading (α : Type) := Except (List Finding) α

namespace Reading

/-- A single fault of the whole. -/
def fault {α : Type} (f : Fault) : Reading α := .error [⟨[], f⟩]

/-- A reading of a part. -/
def within {α : Type} (place : Place) : Reading α → Reading α
  | .ok a => .ok a
  | .error findings => .error (findings.map fun f => { f with place := place :: f.place })

/-- A function and its argument, both read. -/
def ap {α β : Type} : Reading (α → β) → Reading α → Reading β
  | .ok f, .ok a => .ok (f a)
  | .ok _, .error found => .error found
  | .error found, .ok _ => .error found
  | .error found, .error more => .error (found ++ more)

/-- The values of a list of readings. -/
def all {α : Type} : List (Reading α) → Reading (List α)
  | [] => .ok []
  | r :: rest => ap (r.map List.cons) (all rest)

/-- The items of a list of data, each read. -/
def items {α : Type} (read : Datum → Reading α) (data : List Datum) : Reading (List α) :=
  all (data.zipIdx.map fun (d, i) => within (.item i) (read d))

/-- A field of a record, read unless it is missing. -/
def field {α : Type} (entries : List (Datum × Datum)) (name : String) (read : Datum → Reading α)
    (missing : Reading α) : Reading α :=
  within (.field name) (match Datum.entry? name entries with
    | some d => read d
    | none => missing)

end Reading

namespace Datum

/-- A datum that is a text. -/
def readText : Datum → Reading String
  | text s => .ok s
  | _ => .fault .notText

/-- A datum that is a list of texts. -/
def readTexts : Datum → Reading (List String)
  | list ds => Reading.items readText ds
  | _ => .fault .notList

/-- The entry found under a text is a part of the mapping. -/
theorem sizeOf_entry? {key : String} {entries : List (Datum × Datum)} {d : Datum}
    (h : entry? key entries = some d) : sizeOf d < sizeOf entries := by
  unfold entry? at h
  obtain ⟨⟨k, e⟩, hfind, rfl⟩ := Option.map_eq_some_iff.1 h
  have hmem : (k, e) ∈ entries := List.mem_reverse.1 (List.mem_of_find?_eq_some hfind)
  have hlt := List.sizeOf_lt_of_mem hmem
  have : sizeOf (k, e) = 1 + sizeOf k + sizeOf e := rfl
  simp only at *
  omega

end Datum

end ProductLine
