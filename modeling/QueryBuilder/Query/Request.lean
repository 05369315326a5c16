/-
**Structured queries.**

The query that a service understands: a source table, joins, projections and at most one condition.
In its text, references and conditions are lists whose first item says what they are:
`["field", 12, null]`, `["=", ["field", 12, null], 5]`, `["and", …, …]`.

Main definitions:

* `QueryBuilder.FieldRef`, `QueryBuilder.JoinClause`, `QueryBuilder.Projection`,
  `QueryBuilder.Condition`, `QueryBuilder.Query` — the parts of a query and the whole;
* `QueryBuilder.ExecutionRequest`, `QueryBuilder.SaveRequest` — bodies for the services that run
  and keep queries;
* `toJson` in the namespace of each.
-/

import QueryBuilder.Query.Literal
import QueryBuilder.Query.Vocabulary

set_option autoImplicit false

namespace QueryBuilder

/-! ### References -/

/-- A field of the source table, or of the join with the given alias. -/
structure FieldRef where
  field : Int
  joinAlias : Option String
  deriving DecidableEq, Repr

/-- The list of a reference. -/
def FieldRef.toJson (r : FieldRef) : Json :=
  .list [.text "field", .int r.field,
    .optional (fun aliasName => .record [("join-alias", .text aliasName)]) r.joinAlias]

/-! ### Joins -/

/-- A table that is joined on the equality of two fields. -/
structure JoinClause where
  aliasName : String
  source : Int
  lhs : FieldRef
  rhs : FieldRef
  kind : JoinKind
  deriving DecidableEq, Repr

/-- The record of a join. -/
def JoinClause.toJson (j : JoinClause) : Json :=
  .record [("alias", .text j.aliasName), ("source-table", .int j.source),
    ("condition", .list [.text "=", j.lhs.toJson, j.rhs.toJson]),
    ("strategy", .text j.kind.strategy)]

/-! ### Projections -/

/-- A column of the result. -/
inductive Projection where
  | plain (field : FieldRef)
  | aggregate (aggregation : Aggregation) (field : FieldRef)
  deriving DecidableEq, Repr

/-- The list of a projection. -/
def Projection.toJson : Projection → Json
  | .plain field => field.toJson
  | .aggregate aggregation field => .list [.text aggregation.word, field.toJson]

/-! ### Conditions -/

/-- What rows have to meet. -/
inductive Condition where
  | compare (comparison : Comparison) (field : FieldRef) (value : Option Literal)
  | combine (connective : Connective) (lhs rhs : Condition)
  deriving DecidableEq, Repr

/-- The list of a condition; tests for null are written without a value. -/
def Condition.toJson : Condition → Json
  | .compare comparison field value =>
    .list ([.text comparison.word, field.toJson] ++
      if comparison.isUnary then [] else [.optional Literal.toJson value])
  | .combine connective lhs rhs => .list [.text connective.word, lhs.toJson, rhs.toJson]

/-! ### Queries -/

/-- A structured query. -/
structure Query where
  source : Int
  joins : List JoinClause
  projections : List Projection
  condition : Option Condition
  deriving DecidableEq, Repr

/-- The record of a query. -/
def Query.toJson (q : Query) : Json :=
  .record ([("source-table", .int q.source), ("joins", .list (q.joins.map JoinClause.toJson)),
    ("fields", .list (q.projections.map Projection.toJson))] ++
    Json.ifPresent "filter" Condition.toJson q.condition)

/-- What the service that runs queries is asked. -/
structure ExecutionRequest where
  database : Int
  query : Query
  deriving DecidableEq, Repr

/-- The record of a request. -/
def ExecutionRequest.toJson (r : ExecutionRequest) : Json :=
  .record [("database", .int r.database), ("type", .text "query"), ("query", r.query.toJson)]

/-- What the service that keeps queries is asked. -/
structure SaveRequest where
  name : String
  description : Option String
  database : Int
  query : Query
  visualization : String
  settings : Json
  deriving Repr

/-- The record of a request. -/
def SaveRequest.toJson (r : SaveRequest) : Json :=
  .record ([("name", .text r.name)] ++ Json.ifPresent "description" .text r.description ++
    [("database_id", .int r.database), ("query_type", .text "structured"),
      ("query", r.query.toJson), ("visualization_type", .text r.visualization),
      ("visualization_settings", r.settings)])

end QueryBuilder
