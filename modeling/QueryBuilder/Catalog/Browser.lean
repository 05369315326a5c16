/-
**Browsing a catalog.**

A browser asks a provider for the list of databases and for the tables of each database, and keeps
every list that it was given, so that each is fetched at most once.  A failed request leaves the
browser as it is.  The provider has a state of its own, since its answers may change from request
to request.

Main definitions:

* `QueryBuilder.Provider` — a source of catalog lists;
* `QueryBuilder.Browser` — the lists fetched so far;
* `QueryBuilder.Browser.listDatabases`, `QueryBuilder.Browser.expand` — the requests;
* `QueryBuilder.Browser.table?` — a table in the lists fetched so far.
-/

import QueryBuilder.Catalog.Table

set_option autoImplicit false

namespace QueryBuilder

/-- Why a provider gave no list. -/
structure CatalogError where
  reason : String
  deriving DecidableEq, Repr

/-- The text that is shown. -/
def CatalogError.message (e : CatalogError) : String :=
  "Catalog error: " ++ e.reason

/-- A source of catalog lists; each answer may change its state. -/
structure Provider (σ : Type) where
  databases : σ → Except CatalogError (List CatalogDatabase) × σ
  tables : Int → σ → Except CatalogError (List CatalogTable) × σ

/-- The lists that were fetched so far, the tables by database in the order of their arrival. -/
structure Browser where
  databases : Option (List CatalogDatabase)
  expanded : List (Int × List CatalogTable)
  deriving DecidableEq, Repr

namespace Browser

/-- A browser that has fetched nothing. -/
def empty : Browser := ⟨none, []⟩

/-- Whether the tables of a database were fetched. -/
def isExpanded (b : Browser) (database : Int) : Bool :=
  (b.expanded.lookup database).isSome

/-- A table in the lists fetched so far. -/
def table? (b : Browser) (id : Int) : Option CatalogTable :=
  (b.expanded.flatMap Prod.snd).find? fun t => t.id == id

variable {σ : Type}

/-- The list of databases, fetched unless it is there. -/
def listDatabases (provider : Provider σ) (b : Browser) (s : σ) :
    Except CatalogError (List CatalogDatabase) × Browser × σ :=
  match b.databases with
  | some list => (.ok list, b, s)
  | none =>
    match provider.databases s with
    | (.ok list, s) => (.ok list, { b with databases := some list }, s)
    | (.error e, s) => (.error e, b, s)

/-- The tables of a database, fetched unless they are there. -/
def expand (provider : Provider σ) (database : Int) (b : Browser) (s : σ) :
    Except CatalogError (List CatalogTable) × Browser × σ :=
  match b.expanded.lookup database with
  | some list => (.ok list, b, s)
  | none =>
    match provider.tables database s with
    | (.ok list, s) => (.ok list, { b with expanded := b.expanded ++ [(database, list)] }, s)
    | (.error e, s) => (.error e, b, s)

end Browser

end QueryBuilder
