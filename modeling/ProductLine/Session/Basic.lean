import ProductLine.Diagram.Dot
import ProductLine.FeatureModel
import ProductLine.Graph.Builder
import ProductLine.Graph.Checker
import ProductLine.Session.Cache
import ProductLine.Settings.Basic

/-!
# Sessions

A session analyses one product line: it holds its feature space and feature model, the diagrams computed so
far, the encoded presence conditions, the trace of the last evaluation and the warnings. What fails leaves
everything that was done before, so every operation returns the session along with its answer.
-/

namespace ProductLine

/-- What an evaluation did: the ids it computed, in the order they were completed, the ids it took from the
cache, and the models it showed to the checker. -/
structure Trace where
  evaluated : List String
  hits : List String
  asked : List Model
deriving Inhabited

/-- The trace of nothing done. -/
def Trace.empty : Trace := ⟨[], [], []⟩

/-- The analysis of one product line. -/
structure Session where
  space : FeatureSpace
  featureModel : FeatureModel
  checker : Checker
  builder : Option Builder
  label : String
  cache : Cache
  presences : List (String × Handle)
  trace : Trace
  warnings : List Warning
  supply : Nat
  closed : Bool

namespace Session

/-- The answer of an operation and the session after it. -/
abbrev Outcome (α : Type) := Except Error α × Session

/-- The session of the product line with a feature model, in the fresh space of some settings. -/
def start (settings : Settings) (serial : Nat) (source : String) (checker : Checker)
    (builder : Option Builder) : Except Error Session :=
  match FeatureModel.build (settings.space serial) source with
  | (.error e, _) => .error e
  | (.ok model, space) => .ok
    { space := space
      featureModel := model
      checker := checker
      builder := builder
      label := settings.label
      cache := .empty
      presences := []
      trace := .empty
      warnings := model.warnings
      supply := 0
      closed := false }

/-- The session of the product line whose feature model is the text of a file. -/
def startFile (settings : Settings) (serial : Nat) (text : String) (checker : Checker)
    (builder : Option Builder) : Except Error Session :=
  start settings serial (String.ofList (Text.unifyLines text.toList)) checker builder

/-- The graph that a source describes, if the session can build graphs. -/
def model (s : Session) (source : Datum) : Except Error ((g : Graph) × Fin g.size) :=
  match s.builder with
  | some build => build source
  | none => .error .noBuilder

/-- A diagram in the dot language, under the label of the session unless another one is given. -/
def exportDot (s : Session) (space : FeatureSpace) (d : Diagram) (label : Option String) : String :=
  let label := match label with
    | some text => if text = "" then s.label else text
    | none => s.label
  (Chart.ofDiagram space d).dot label

/-- A new object for a diagram. -/
def make (s : Session) (d : Diagram) : Handle × Session :=
  (⟨s.supply, d⟩, { s with supply := s.supply + 1 })

/-- Looks an id up in the cache; a hit goes into the trace. -/
def look (s : Session) (id : String) : Option Handle × Session :=
  match s.cache.lookup id with
  | (some handle, cache) => (some handle, { s with cache, trace := { s.trace with hits := s.trace.hits ++ [id] } })
  | (none, cache) => (none, { s with cache })

/-- What to warn about when a presence condition is encoded: that it holds in no valid product. -/
def presenceWarnings (s : Session) (id text : String) (d : Diagram) : List Warning :=
  if (d.mul s.featureModel.diagram).nonzero = .empty then [.neverPresent text id] else []

/-- Encodes a formula as the presence condition of a node and keeps it under its text. -/
def encodePresence (s : Session) (id text : String) : Outcome Handle :=
  match s.space.encode text with
  | (.error e, space) => (.error e, { s with space })
  | (.ok r, space) =>
    let (handle, s) := { s with space }.make (.ofRegion space.owner r)
    (.ok handle,
      { s with
        presences := s.presences ++ [(text, handle)]
        warnings := s.warnings ++ s.presenceWarnings id text handle.diagram })

/-- The diagram of the products that include a node. A formula is encoded once. -/
def presence {α : Type} (s : Session) (node : Node α) : Outcome Handle :=
  match node.presence with
  | .diagram handle =>
    (if handle.diagram.owner = s.space.owner then .ok handle else .error .foreignDiagram, s)
  | .formula text =>
    match s.presences.lookup text with
    | some handle => (.ok handle, s)
    | none => s.encodePresence node.id text

/-- Looking up an id does not change which ids are cached. -/
@[simp] theorem ids_look (s : Session) (id : String) : (s.look id).2.cache.ids = s.cache.ids := by
  have h := s.cache.ids_lookup id
  unfold look
  split <;> simp_all

/-- Encoding a presence condition leaves the cache alone. -/
@[simp] theorem cache_encodePresence (s : Session) (id text : String) :
    (s.encodePresence id text).2.cache = s.cache := by
  unfold encodePresence
  split <;> rfl

/-- Asking for a presence condition leaves the cache alone. -/
@[simp] theorem cache_presence {α : Type} (s : Session) (node : Node α) :
    (s.presence node).2.cache = s.cache := by
  unfold presence
  split
  · rfl
  · split <;> simp

/-- Forgets the cached diagrams. -/
def reset (s : Session) : Session := { s with cache := .empty }

/-- Forgets the cached diagrams, the encoded presence conditions and the trace. -/
def clear (s : Session) : Session := { s with cache := .empty, presences := [], trace := .empty }

/-- Ends the session: what it holds is forgotten, and nothing is evaluated any more. -/
def close (s : Session) : Session := if s.closed then s else { s.clear with closed := true }

end Session

end ProductLine
