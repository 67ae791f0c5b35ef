import ListQuery.Registry.Basic

/-!
# Registries in one go

A registry whose entities are all known beforehand can be made at once: the entities
are registered in the order in which they are listed, and then the relations are
resolved. If one of them is refused, there is no registry.

## Main definitions

* `Registrant` is an entity to register, by its class or by its fields.
* `Registry.bootstrap` makes a finalized registry of a list of them.
-/

namespace ListQuery

/-- An entity to register: the one that a class declares, or one whose fields are listed. -/
inductive Registrant
  | declared (c : EntityClass)
  | listed (name : Value) (items : List FieldItem)

/-- Why a registry cannot be made at once. -/
inductive BootstrapError
  | registration (e : RegistrationError)
  | relation (e : FinalizeError)
  deriving DecidableEq

namespace Registry

/-- Registers an entity. -/
def enter (r : Registry) : Registrant → Checked RegistrationError Registry
  | .declared c => r.registerClass c
  | .listed name items => Prod.fst <$> r.register name items

/-- Registers entities in their order. -/
def enterAll (r : Registry) : List Registrant → Checked RegistrationError Registry
  | [] => pure r
  | registrant :: rest => do
    let next ← r.enter registrant
    enterAll next rest

/-- Makes a registry of all its entities and finalizes it. -/
def bootstrap (config : Config) (registrants : List Registrant) :
    Checked BootstrapError Registry := do
  let r ← ExceptT.adapt .registration (enterAll (.empty config) registrants)
  ExceptT.adapt .relation r.finalize

end Registry

end ListQuery
