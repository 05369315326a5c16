/-
**Classes of field types.**

Catalogs name the type of a field in many spellings: `type/BigInteger`, `bigint`, `NUMERIC(10,2)`.
Case, a leading `type/`, an argument in parentheses and blanks around the name do not matter; what
is left decides the class, and the class decides which comparisons and aggregations a field admits.

Main definitions:

* `QueryBuilder.FieldClass` — the five classes;
* `QueryBuilder.FieldClass.coreName` — the name of a type without its decoration;
* `QueryBuilder.FieldClass.ofBaseType` — the class of a type;
* `QueryBuilder.FieldClass.comparisons` — what fields of a class can be compared by.
-/

import QueryBuilder.Query.Vocabulary
import QueryBuilder.Text.Blank
import QueryBuilder.Text.Lowercase

set_option autoImplicit false

namespace QueryBuilder

/-- What the type of a field is good for. -/
inductive FieldClass where
  | numeric | text | temporal | boolean | other
  deriving DecidableEq, Repr

namespace FieldClass

/-- Names of whole, fractional and fixed-point number types. -/
def numericNames : List String :=
  ["integer", "int", "biginteger", "bigint", "smallint", "tinyint", "serial", "bigserial",
   "float", "double", "real", "decimal", "numeric", "number", "currency", "percentage"]

/-- Names of text types. -/
def textNames : List String :=
  ["text", "varchar", "char", "string", "uuid", "email", "url", "category", "name", "title"]

/-- Names of types for dates and times. -/
def temporalNames : List String :=
  ["date", "datetime", "time", "timestamp", "datetimewithtz", "datetimewithlocaltz",
   "datetimewithzoneoffset", "timewithtz", "instant"]

/-- Names of the type of truth values. -/
def booleanNames : List String :=
  ["boolean", "bool"]

/-- A text without a leading `type/`. -/
def dropNamespace (s : List Char) : List Char :=
  if "type/".toList.isPrefixOf s then s.drop 5 else s

/-- The name of a type in lower case, without its namespace, its argument and blanks around it. -/
def coreName (baseType : String) : List Char :=
  Text.trim ((dropNamespace (Text.lower baseType.toList)).takeWhile fun c => c != '(')

/-- The class of a type by its bare name. -/
def ofCoreName (name : String) : FieldClass :=
  if numericNames.contains name then numeric
  else if textNames.contains name then text
  else if temporalNames.contains name then temporal
  else if booleanNames.contains name then boolean
  else other

/-- The class of a type. -/
def ofBaseType (baseType : String) : FieldClass :=
  ofCoreName (String.ofList (coreName baseType))

/-- Whether values can be summed, averaged and the like. -/
def isAggregatable (c : FieldClass) : Bool :=
  c = numeric

/-- The comparisons that are offered for a class, in the order in which they are offered. -/
def comparisons : FieldClass → List Comparison
  | numeric | temporal => [.eq, .ne, .gt, .lt, .ge, .le, .isNull, .notNull]
  | text =>
    [.eq, .ne, .contains, .doesNotContain, .startsWith, .endsWith, .isNull, .notNull]
  | boolean | other => [.eq, .ne, .isNull, .notNull]

/-- Whether a comparison is offered for a class. -/
def supports (c : FieldClass) (comparison : Comparison) : Bool :=
  c.comparisons.contains comparison

end FieldClass

end QueryBuilder
