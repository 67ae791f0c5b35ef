import ListQuery.Find.Assemble
import ListQuery.Registry.Basic

/-!
# Requests for a registered entity

A request for a list of a registered entity is assembled under the configuration of
the registry, and its sort order has to fit the sort specification of the entity.

## Main definitions

* `Registry.assemble` and `Registry.assembleOne` make find options of a request.
-/

namespace ListQuery

/-- Why a request for an entity fails: the entity cannot be looked up, or the request is
refused. -/
inductive RequestError
  | lookup (e : LookupError)
  | find (e : FindError)
  deriving DecidableEq

namespace Registry

/-- Makes find options of a request for an entity. -/
def assemble (r : Registry) (name : Value) (request : Request) :
    Checked RequestError FindOptions := do
  let graph ← .ofExcept ((r.sortGraph name).mapError .lookup)
  ExceptT.adapt .find (ListQuery.assemble r.config (some graph) request)

/-- Makes find options for a single row of a request for an entity. -/
def assembleOne (r : Registry) (name : Value) (request : Request) :
    Checked RequestError FindOneOptions := do
  let graph ← .ofExcept ((r.sortGraph name).mapError .lookup)
  ExceptT.adapt .find (ListQuery.assembleOne r.config (some graph) request)

end Registry

end ListQuery
