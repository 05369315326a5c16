/-
**Why an edit of a graph is refused.**

Main definitions:

* `QueryBuilder.GraphError` — the causes;
* `QueryBuilder.GraphError.message` — the text that is shown.
-/

import QueryBuilder.Query.Vocabulary

set_option autoImplicit false

namespace QueryBuilder

/-- Why an edit of a graph, a saved graph or a use of a graph is refused. -/
inductive GraphError where
  | tableOnCanvas
  | databaseMismatch (expected found : Int)
  | databaseLocked
  | unknownTable (id : Nat)
  | unknownJoin (id : Nat)
  | unknownColumn (id : Nat)
  | unknownFilter (id : Nat)
  | selfJoin
  | fieldNotInTable (field : Int) (table : String)
  | duplicateColumn
  | unsupportedComparison (comparison : Comparison) (baseType : String)
  | indexOutOfRange (index length : Nat)
  | noTables
  | noDatabase
  | duplicateId (id : Nat)
  | duplicateAlias (aliasName : String)
  deriving DecidableEq, Repr

namespace GraphError

/-- The text that is shown. -/
def message : GraphError → String
  | tableOnCanvas => "Table is already on the canvas"
  | databaseMismatch expected found =>
    "All tables must be from the same database (expected " ++ toString expected ++ ", got " ++
      toString found ++ ")"
  | databaseLocked => "Remove all tables before switching database"
  | unknownTable id => "Unknown table: " ++ toString id
  | unknownJoin id => "Unknown join: " ++ toString id
  | unknownColumn id => "Unknown column: " ++ toString id
  | unknownFilter id => "Unknown filter: " ++ toString id
  | selfJoin => "A join must connect two different tables"
  | fieldNotInTable field table =>
    "Field " ++ toString field ++ " does not belong to " ++ table
  | duplicateColumn => "Column is already selected"
  | unsupportedComparison comparison baseType =>
    "Operator " ++ comparison.word ++ " is not available for " ++ baseType ++ " fields"
  | indexOutOfRange index length =>
    "Column index " ++ toString index ++ " out of range (" ++ toString length ++ " columns)"
  | noTables => "Add a table to build a query"
  | noDatabase => "No database selected"
  | duplicateId id => "Invalid graph snapshot: id " ++ toString id ++ " is used twice"
  | duplicateAlias aliasName => "Invalid graph snapshot: alias " ++ aliasName ++ " is used twice"

end GraphError

end QueryBuilder
