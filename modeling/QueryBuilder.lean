import QueryBuilder.Canvas.Coordinate
import QueryBuilder.Canvas.Drag
import QueryBuilder.Canvas.Overview
import QueryBuilder.Canvas.Placement
import QueryBuilder.Canvas.Settings
import QueryBuilder.Canvas.View
import QueryBuilder.Catalog.Browser
import QueryBuilder.Catalog.Field
import QueryBuilder.Catalog.FieldClass
import QueryBuilder.Catalog.Table
import QueryBuilder.CommandLine.Arguments
import QueryBuilder.CommandLine.Directory
import QueryBuilder.CommandLine.Path
import QueryBuilder.CommandLine.Program
import QueryBuilder.CommandLine.System
import QueryBuilder.Decimal.Binary
import QueryBuilder.Decimal.Shortest
import QueryBuilder.Decimal.Spelling
import QueryBuilder.Drop.Dispatch
import QueryBuilder.Drop.Payload
import QueryBuilder.Graph.Alias
import QueryBuilder.Graph.Basic
import QueryBuilder.Graph.Codec
import QueryBuilder.Graph.Columns
import QueryBuilder.Graph.Diagram
import QueryBuilder.Graph.Entity
import QueryBuilder.Graph.Error
import QueryBuilder.Graph.Execution
import QueryBuilder.Graph.Export
import QueryBuilder.Graph.Filters
import QueryBuilder.Graph.Joins
import QueryBuilder.Graph.Query
import QueryBuilder.Graph.Saved
import QueryBuilder.Graph.Suggestion
import QueryBuilder.Graph.Tables
import QueryBuilder.Json.Basic
import QueryBuilder.Json.Decoder
import QueryBuilder.Json.Draft
import QueryBuilder.Json.Load
import QueryBuilder.Json.Notice
import QueryBuilder.Json.Numeral
import QueryBuilder.Json.Reader
import QueryBuilder.Json.Render
import QueryBuilder.Main
import QueryBuilder.Query.Literal
import QueryBuilder.Query.Request
import QueryBuilder.Query.Result
import QueryBuilder.Query.Vocabulary
import QueryBuilder.Session.Basic
import QueryBuilder.Session.Save
import QueryBuilder.Text.Alphanumeric
import QueryBuilder.Text.Blank
import QueryBuilder.Text.Casing
import QueryBuilder.Text.Lowercase
import QueryBuilder.Text.Range
import QueryBuilder.Proofs.Graph.Checks
import QueryBuilder.Proofs.Graph.Edits
import QueryBuilder.Proofs.Graph.FreshAlias
import QueryBuilder.Proofs.Graph.Validity
import QueryBuilder.Proofs.Graph.Preservation
import QueryBuilder.Proofs.Graph.Loading
import QueryBuilder.Proofs.Graph.Acceptance
import QueryBuilder.Proofs.Graph.Reachability
import QueryBuilder.Proofs.Graph.Agreement
import QueryBuilder.Proofs.Graph.Faithfulness
import QueryBuilder.Proofs.Graph.FilterChain
import QueryBuilder.Proofs.Graph.Refusals
import QueryBuilder.Proofs.Graph.Generations
import QueryBuilder.Proofs.Session.Schedules
import QueryBuilder.Proofs.Session.LatestRun
import QueryBuilder.Proofs.Json.Numbers
import QueryBuilder.Proofs.Json.Texts
import QueryBuilder.Proofs.Json.Values
import QueryBuilder.Proofs.Graph.Codec
import QueryBuilder.Proofs.Graph.RoundTrip
import QueryBuilder.Proofs.Graph.Rereading
import QueryBuilder.Proofs.Graph.Accepted
import QueryBuilder.Proofs.Graph.Renaming
import QueryBuilder.Proofs.Graph.Twins
import QueryBuilder.Proofs.Graph.Restoration
import QueryBuilder.Proofs.Session.Replacement
import QueryBuilder.Proofs.Drop.Outcomes
import QueryBuilder.Proofs.Canvas.Gestures
import QueryBuilder.Proofs.Query.Decoding
import QueryBuilder.Proofs.Session.ShownRun
import QueryBuilder.Proofs.Canvas.Board
import QueryBuilder.Proofs.Graph.Outline
import QueryBuilder.Proofs.Graph.Tracking
import QueryBuilder.Proofs.Graph.Clauses
import QueryBuilder.Proofs.Session.Consumers
import QueryBuilder.Proofs.Drop.Messages
import QueryBuilder.Proofs.Session.Tickets
import QueryBuilder.Proofs.Graph.Cascade
import QueryBuilder.Proofs.Graph.IssuedIds
import QueryBuilder.Proofs.Drop.Linking
import QueryBuilder.Proofs.Drop.Reordering
import QueryBuilder.Proofs.Canvas.Handover
import QueryBuilder.Proofs.Catalog.Browsing
import QueryBuilder.Proofs.Graph.PartEdits
import QueryBuilder.Proofs.Graph.Interleaving
import QueryBuilder.Proofs.Canvas.Settings
import QueryBuilder.Proofs.Canvas.Exact
import QueryBuilder.Proofs.Canvas.Spawning
import QueryBuilder.Proofs.Canvas.Fitting
import QueryBuilder.Proofs.Decimal.Doubles
import QueryBuilder.Proofs.Canvas.Zoom
import QueryBuilder.Proofs.Json.Spacing
import QueryBuilder.Proofs.CommandLine.Endings
import QueryBuilder.Proofs.Text.Recasing
import QueryBuilder.Proofs.Graph.Spelling
import QueryBuilder.Proofs.Text.Blank
import QueryBuilder.Proofs.Catalog.Decoration
import QueryBuilder.Proofs.Graph.TypeSpelling
import QueryBuilder.Proofs.Graph.LeastAlias
import QueryBuilder.Proofs.Canvas.Overrides
