import ProductLine.Datum.Json
import ProductLine.Diagram.Dot
import ProductLine.Graph.Nested
import ProductLine.Graph.Validation
import ProductLine.Session.Evaluation
import ProductLine.Settings.Environment
import ProductLine.Proofs.Binary64.Rounding
import ProductLine.Proofs.Diagram.Entries
import ProductLine.Proofs.Diagram.WellFormed
import ProductLine.Proofs.Session.Recursion
import ProductLine.Proofs.Diagram.Pointwise
import ProductLine.Proofs.Expression.Pointwise
import ProductLine.Proofs.FeatureSpace
import ProductLine.Proofs.Session.Calls
import ProductLine.Proofs.Session.Masking
import ProductLine.Proofs.Graph.Reachability
import ProductLine.Proofs.Session.Presence
import ProductLine.Proofs.Session.Products
import ProductLine.Proofs.Session.Order
import ProductLine.Proofs.Session.Cycles
import ProductLine.Proofs.Binary64.Order
import ProductLine.Proofs.Binary64.Product
import ProductLine.Proofs.Diagram.Decided
import ProductLine.Proofs.Diagram.Canonical
import ProductLine.Proofs.Diagram.Meeting
import ProductLine.Proofs.Diagram.Queries
import ProductLine.Proofs.Expression.Solution
import ProductLine.Proofs.Expression.Names
import ProductLine.Proofs.Expression.Reading
import ProductLine.Proofs.Expression.Literal
import ProductLine.Proofs.Expression.Written
import ProductLine.Proofs.Session.Canonical
import ProductLine.Proofs.Workspace
import ProductLine.Proofs.Workspace.Growth
import ProductLine.Proofs.Workspace.Queries
import ProductLine.Proofs.Workspace.Recombination
import ProductLine.Proofs.Workspace.Arithmetic
import ProductLine.Proofs.Formula.Compound
import ProductLine.Proofs.Workspace.Logic
import ProductLine.Proofs.Region.Products
import ProductLine.Proofs.FeatureModel
import ProductLine.Proofs.Formula.Printed
import ProductLine.Proofs.Region.Text
import ProductLine.Proofs.Graph.Document
import ProductLine.Proofs.Session.Forbidden
import ProductLine.Proofs.Session.Repetition
import ProductLine.Proofs.Session.Completion
import ProductLine.Proofs.Session.Revision
import ProductLine.Proofs.Session.Resumption
import ProductLine.Proofs.Formula.Reading
import ProductLine.Proofs.Formula.Spelling
import ProductLine.Proofs.Formula.Written
import ProductLine.Proofs.Diagram.Partition
import ProductLine.Proofs.Diagram.Chart
import ProductLine.Proofs.Diagram.Matching
import ProductLine.Proofs.Session.Renewal
import ProductLine.Proofs.Session.Requests
import ProductLine.Proofs.Session.Coherence
import ProductLine.Proofs.Session.Forest
import ProductLine.Proofs.Graph.Cycle
import ProductLine.Proofs.Graph.Walk
import ProductLine.Proofs.Graph.Validation
import ProductLine.Proofs.Graph.Conditions
import ProductLine.Proofs.Graph.Reports
import ProductLine.Proofs.Session.Validated
import ProductLine.Proofs.Binary64.Precision
import ProductLine.Proofs.Workspace.Commutativity
import ProductLine.Proofs.Workspace.Associativity
import ProductLine.Proofs.Formula.Runs
import ProductLine.Proofs.Formula.Normal
import ProductLine.Proofs.Expression.Identifier
import ProductLine.Proofs.Session.Reference
import ProductLine.Proofs.Session.Support
import ProductLine.Proofs.Graph.Preorder
import ProductLine.Proofs.Session.Cache
import ProductLine.Proofs.Session.Accounts
