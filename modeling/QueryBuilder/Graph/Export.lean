/-
**What a host is offered.**

A host that holds graphs and tables as texts is offered two functions from texts to texts: the query
of a saved graph, and the keys of a join between two tables of the catalog.  Where there is no query
and where there are no keys, the text is `null`.

Main definitions:

* `QueryBuilder.Export.query` — the query of a saved graph;
* `QueryBuilder.Export.suggestion` — the keys of a join.
-/

import QueryBuilder.Graph.Query
import QueryBuilder.Graph.Saved
import QueryBuilder.Graph.Suggestion

set_option autoImplicit false

namespace QueryBuilder.Export

/-- The text of the query of a saved graph. -/
def query (graph : String) : Except (Json.LoadError GraphError) String :=
  (Graph.loadText graph).map fun g => (Json.optional Query.toJson g.query?).compact

/-- The text of the keys of a join between two tables.  Of two faults the one of the source is
told. -/
def suggestion (source target : String) : Except (Json.LoadError Empty) String := do
  let source ← Json.decodeText CatalogTable.ofDraft source
  let target ← Json.decodeText CatalogTable.ofDraft target
  return (Json.optional Suggestion.toJson (suggest source.side target.side)).compact

end QueryBuilder.Export
