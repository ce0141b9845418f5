import GroupRoles.Role

/-!
# Groups, clients and references to them

A reference names a group or a client, gives its id, or both. An id saves a lookup.
-/

namespace GroupRoles

/-- The realm where none is named. -/
def defaultRealm : String := "master"

/-- A group of the directory. -/
structure Group where
  id : String
  name : String
deriving Repr, DecidableEq, Inhabited

/-- A group reference. -/
structure GroupKey where
  id : Option String := none
  name : Option String := none
deriving Repr, DecidableEq, Inhabited

/-- A client reference: its internal id, or the client id by which people know it. -/
structure ClientKey where
  id : Option String := none
  clientId : Option String := none
deriving Repr, DecidableEq, Inhabited

/-- A group reference identifies something. -/
def GroupKey.check (key : GroupKey) : Except ReferenceFault Unit :=
  if key.id.isNone && key.name.isNone then throw .emptyGroup else pure ()

/-- A client reference identifies something. -/
def ClientKey.check (key : ClientKey) : Except ReferenceFault Unit :=
  if key.id.isNone && key.clientId.isNone then throw .emptyClient else pure ()

/-- A group with its id and name. -/
def Group.shape : Shape Group :=
  .record "Group" <|
    ((Fields.field "id" .text).both (.field "name" .text)).build
      (fun (id, name) => ⟨id, name⟩) (fun g => (g.id, g.name))

/-- A group reference. -/
def GroupKey.shape : Shape GroupKey :=
  .record "GroupRef" <|
    ((Fields.optional "id" .text).both (.optional "name" .text)).build
      (fun (id, name) => ⟨id, name⟩) (fun k => (k.id, k.name))

/-- A client reference. -/
def ClientKey.shape : Shape ClientKey :=
  .record "ClientRef" <|
    ((Fields.optional "id" .text).both (.optional "client_id" .text)).build
      (fun (id, clientId) => ⟨id, clientId⟩) (fun k => (k.id, k.clientId))

end GroupRoles
