/-
**The words of queries.**

The closed vocabularies of a query, each with the words under which its members are written: kinds
of joins, aggregations, comparisons and the two connectives of filters.

Main definitions:

* `QueryBuilder.JoinKind`, `QueryBuilder.Aggregation`, `QueryBuilder.Comparison`,
  `QueryBuilder.Connective` — the vocabularies;
* `word`, `ofWord` in the namespace of each — its words and their decoder.
-/

import QueryBuilder.Json.Decoder

set_option autoImplicit false

namespace QueryBuilder

/-! ### Kinds of joins -/

/-- Which rows without a partner a join keeps. -/
inductive JoinKind where
  | inner | left | right | full
  deriving DecidableEq, Repr

namespace JoinKind

/-- All kinds. -/
def all : List JoinKind := [inner, left, right, full]

/-- The word of a saved join. -/
def word : JoinKind → String
  | inner => "inner"
  | left => "left"
  | right => "right"
  | full => "full"

/-- The word of a join in a query. -/
def strategy : JoinKind → String
  | inner => "inner-join"
  | left => "left-join"
  | right => "right-join"
  | full => "full-join"

/-- Reads the word of a saved join. -/
def ofWord : Json.Decoder JoinKind :=
  Json.word (all.map fun k => (k.word, k))

end JoinKind

/-! ### Aggregations -/

/-- What a column shows of the values of its field. -/
inductive Aggregation where
  /-- The values themselves. -/
  | plain
  | count | distinct | sum | avg | min | max
  deriving DecidableEq, Repr

namespace Aggregation

/-- All aggregations. -/
def all : List Aggregation := [plain, count, distinct, sum, avg, min, max]

/-- The word of an aggregation, in saved columns and in queries. -/
def word : Aggregation → String
  | plain => "none"
  | count => "count"
  | distinct => "distinct"
  | sum => "sum"
  | avg => "avg"
  | min => "min"
  | max => "max"

/-- Reads the word of an aggregation. -/
def ofWord : Json.Decoder Aggregation :=
  Json.word (all.map fun a => (a.word, a))

end Aggregation

/-! ### Comparisons -/

/-- How a filter compares a field. -/
inductive Comparison where
  | eq | ne | gt | lt | ge | le
  | isNull | notNull
  | contains | doesNotContain | startsWith | endsWith
  deriving DecidableEq, Repr

namespace Comparison

/-- All comparisons. -/
def all : List Comparison :=
  [eq, ne, gt, lt, ge, le, isNull, notNull, contains, doesNotContain, startsWith, endsWith]

/-- The symbol of a comparison, in saved filters, in queries and in messages. -/
def word : Comparison → String
  | eq => "="
  | ne => "!="
  | gt => ">"
  | lt => "<"
  | ge => ">="
  | le => "<="
  | isNull => "is-null"
  | notNull => "not-null"
  | contains => "contains"
  | doesNotContain => "does-not-contain"
  | startsWith => "starts-with"
  | endsWith => "ends-with"

/-- The two tests for null compare with nothing. -/
def isUnary : Comparison → Bool
  | isNull | notNull => true
  | _ => false

/-- Reads the symbol of a comparison. -/
def ofWord : Json.Decoder Comparison :=
  Json.word (all.map fun c => (c.word, c))

end Comparison

/-! ### Connectives -/

/-- How a filter is joined to those before it. -/
inductive Connective where
  | and | or
  deriving DecidableEq, Repr

namespace Connective

/-- Both connectives. -/
def all : List Connective := [and, or]

/-- The word of a connective, in saved filters and in queries. -/
def word : Connective → String
  | and => "and"
  | or => "or"

/-- Reads the word of a connective. -/
def ofWord : Json.Decoder Connective :=
  Json.word (all.map fun c => (c.word, c))

end Connective

end QueryBuilder
