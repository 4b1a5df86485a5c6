import ProductLine.Datum.Yaml
import ProductLine.Graph.Document

/-!
# Builders

A builder turns a source into a dependency graph. The sources of document builders are documents, given as
data or as YAML text.
-/

namespace ProductLine

/-- What makes a graph with a root from a source. -/
abbrev Builder := Datum → Except Error ((g : Graph) × Fin g.size)

namespace Builder

/-- What documents are called in errors. -/
def subject : String := "RDG document"

/-- The graph of the document that a datum describes. -/
def ofDatum (source : Datum) : Except Error ((g : Graph) × Fin g.size) :=
  match Document.ofDatum source with
  | .ok d => d.build
  | .error findings => .error (.malformed subject (.invalid findings))

/-- The builder of documents. A text is read as YAML and must give a mapping. -/
def document : Builder
  | .text source =>
    match Datum.ofYaml? source with
    | none => .error (.malformed subject .notYaml)
    | some (.map entries) => ofDatum (.map entries)
    | some _ => .error (.malformed subject .notMapping)
  | source => ofDatum source

end Builder

end ProductLine
