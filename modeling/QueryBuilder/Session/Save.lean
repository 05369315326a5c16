/-
**Keeping queries.**

Main definitions:

* `QueryBuilder.SaveDetails` — what the user says about a query that is to be kept;
* `QueryBuilder.Session.saveRequest` — what the service that keeps queries is asked;
* `QueryBuilder.SaveError`, `QueryBuilder.Session.save` — the answer of the service.
-/

import QueryBuilder.Session.Basic

set_option autoImplicit false

namespace QueryBuilder

/-- What the user says about a query that is to be kept. -/
structure SaveDetails where
  name : String
  description : Option String
  visualization : String
  settings : Json
  deriving Repr

/-- Reads the details; settings that are left out are `null`. -/
def SaveDetails.ofDraft : Json.Decoder SaveDetails :=
  Json.recordOf ["name", "description", "type", "settings"] false fun r =>
    SaveDetails.mk <$> r.required "name" Json.string <*> r.optional "description" Json.string
      <*> r.required "type" Json.string <*> r.withDefault "settings" .null Json.any

/-- Why a query was not kept. -/
inductive SaveError where
  | graph (reason : GraphError)
  | service (reason : String)
  deriving DecidableEq, Repr

/-- The text that is shown. -/
def SaveError.message : SaveError → String
  | .graph reason => reason.message
  | .service reason => "Failed to save visualization: " ++ reason

namespace Session

variable {α : Type}

/-- What the service that keeps queries is asked. -/
def saveRequest (s : Session α) (details : SaveDetails) : Except GraphError SaveRequest :=
  match s.graph.query? with
  | none => .error .noTables
  | some query =>
    match s.graph.database with
    | none => .error .noDatabase
    | some database =>
      .ok { name := details.name
            description := details.description
            database
            query
            visualization := details.visualization
            settings := details.settings }

/-- Keeps the query under the id that the service answers.  The first part is what it was asked, if
it was asked. -/
def save (s : Session α) (details : SaveDetails) (reply : Except String Int) :
    Option SaveRequest × Except SaveError Int :=
  match s.saveRequest details with
  | .error e => (none, .error (.graph e))
  | .ok request => (some request, reply.mapError .service)

end Session

end QueryBuilder
