import ProductLine.Datum.Reading
import ProductLine.Settings.Basic
import ProductLine.Text.Blank

/-!
# Reading settings

Settings are read from a record of data. Whole numbers may also be given as truth values, as floats without
a fraction or as texts, and truth values as numbers or as words.
-/

namespace ProductLine

namespace Settings

/-- Whether digits are written with single underscores between them. -/
def isGrouped : (afterDigit : Bool) → List Char → Bool
  | afterDigit, [] => afterDigit
  | afterDigit, c :: rest =>
    if c.isDigit then isGrouped true rest
    else c == '_' && afterDigit && isGrouped false rest

/-- The natural number that a text without a sign writes, perhaps with zeros behind a point. -/
def natural? (cs : List Char) : Option Nat :=
  let whole := cs.takeWhile (· ≠ '.')
  let places := (cs.dropWhile (· ≠ '.')).drop 1
  if isGrouped false whole && places.all (· == '0') then
    some ((whole.filter Char.isDigit).foldl (fun n c => n * 10 + (c.toNat - 48)) 0)
  else none

/-- The integer that a text writes. -/
def integer? (s : String) : Option Int :=
  match Text.trim s.toList with
  | '+' :: rest => (natural? rest).map Int.ofNat
  | '-' :: rest => (natural? rest).map fun n => -(n : Int)
  | cs => (natural? cs).map Int.ofNat

/-- A datum that is an integer. -/
def readInteger : Datum → Reading Int
  | .int n => .ok n
  | .bool b => .ok (if b then 1 else 0)
  | .float x =>
    match x with
    | .finite u _ =>
      if u % (Binary64.scale : Int) = 0 then .ok (u / (Binary64.scale : Int)) else .fault .fractionalInteger
    | _ => .fault .infiniteInteger
  | .text s =>
    match integer? s with
    | some n => .ok n
    | none => .fault .unreadableInteger
  | _ => .fault .notInteger

/-- A number of places, or none. -/
def readPlaces : Datum → Reading (Option Nat)
  | .null => .ok none
  | d =>
    match readInteger d with
    | .error found => .error found
    | .ok n =>
      if n < 0 then
        .fault (.refused ("terminal_precision must be non-negative, got " ++ toString n ++ "."))
      else .ok (some n.toNat)

/-- The words for truth values. -/
def truthWords : List (String × Bool) :=
  [("0", false), ("off", false), ("f", false), ("false", false), ("n", false), ("no", false),
    ("1", true), ("on", true), ("t", true), ("true", true), ("y", true), ("yes", true)]

/-- Whether an integer has a machine word. -/
def fitsWord (n : Int) : Bool := -(Binary64.twoTo 63 : Int) ≤ n && n < (Binary64.twoTo 63 : Int)

/-- A number that stands for a truth value. -/
def readTruthNumber (n : Int) : Reading Bool :=
  if n = 0 then .ok false
  else if n = 1 then .ok true
  else if fitsWord n then .fault .unreadableTruth
  else .fault .notTruth

/-- A datum that is a truth value. -/
def readTruth : Datum → Reading Bool
  | .bool b => .ok b
  | .int n => readTruthNumber n
  | .float (.finite u _) =>
    if u % (Binary64.scale : Int) = 0 then readTruthNumber (u / (Binary64.scale : Int)) else .fault .notTruth
  | .text s =>
    match truthWords.lookup (String.ofList (s.toList.map Char.toLower)) with
    | some b => .ok b
    | none => .fault .unreadableTruth
  | _ => .fault .notTruth

/-- The settings of a record; what it does not give is standard. -/
def ofEntries (entries : List (Datum × Datum)) : Reading Settings :=
  Reading.ap (Reading.ap (Reading.ap (Reading.ap (.ok Settings.mk)
    (Reading.field entries "variable_order" Datum.readTexts (.ok standard.order)))
    (Reading.field entries "terminal_precision" readPlaces (.ok standard.places)))
    (Reading.field entries "dynamic_reordering" readTruth (.ok standard.reordering)))
    (Reading.field entries "export_label" Datum.readText (.ok standard.label))

/-- The settings of a datum. -/
def ofDatum : Datum → Reading Settings
  | .map entries => ofEntries entries
  | _ => .fault .notRecord

end Settings

end ProductLine
