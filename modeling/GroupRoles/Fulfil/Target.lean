import GroupRoles.Directory.Program

/-!
# From references to ids

A reference is looked up only for what it does not give itself, so that a request with all ids
makes no lookup at all.
-/

namespace GroupRoles

/-- The group of a run; its name when it is known. -/
structure GroupTarget where
  id : String
  name : Option String
deriving Repr, DecidableEq

/-- The client of a run: its internal id, and its client id when that is known. -/
structure ClientTarget where
  id : String
  clientId : Option String
deriving Repr, DecidableEq

/-- The name of a group, or else its id. -/
def GroupTarget.label (t : GroupTarget) : String :=
  t.name.getD t.id

/-- The client id of a client, or else its internal id. -/
def ClientTarget.label (t : ClientTarget) : String :=
  t.clientId.getD t.id

/-- The scope that a client stands for. -/
def ClientTarget.scope (client : Option ClientTarget) : Scope :=
  client.map ClientTarget.id

/-- Where the roles of a scope are looked up. -/
def ClientTarget.place (realm : String) : Option ClientTarget → Place
  | some client => .client client.label realm
  | none => .realm realm

/-- Finds a group. -/
def GroupKey.find (realm : String) : GroupKey → Program GroupTarget
  | ⟨some id, name⟩ => .done ⟨id, name⟩
  | ⟨none, some name⟩ => do
    match ← Program.call (.group realm name) with
    | some group => .done ⟨group.id, some group.name⟩
    | none => .fail (.notFound .group (.name name) (.realm realm))
  | ⟨none, none⟩ => .fail (.reference .emptyGroup)

/-- Finds a client. -/
def ClientKey.find (realm : String) : ClientKey → Program ClientTarget
  | ⟨some id, clientId⟩ => .done ⟨id, clientId⟩
  | ⟨none, some clientId⟩ => do
    match ← Program.call (.client realm clientId) with
    | some id => .done ⟨id, some clientId⟩
    | none => .fail (.notFound .client (.name clientId) (.realm realm))
  | ⟨none, none⟩ => .fail (.reference .emptyClient)

/-- Finds a client, if one is given. -/
def ClientKey.find? (realm : String) : Option ClientKey → Program (Option ClientTarget)
  | some key => some <$> key.find realm
  | none => .done none

namespace RoleKey

/-- The lookup that a reference needs. -/
def query? (group : String) (scope : Scope) : RoleKey → Option RoleQuery
  | known _ => none
  | byName name => some (.named scope name)
  | byId id => some (.mapped group scope id)

/-- What a reference went by. -/
def handle : RoleKey → Handle
  | byName name => .name name
  | byId id => .id id
  | known role => .id role.id

/-- The role that a reference stands for once a role was found for it: what the reference says
itself stays. -/
def complete (key : RoleKey) (found : Role) : Role :=
  ⟨key.id?.getD found.id, key.name?.getD found.name⟩

/-- The role of a reference whose lookup gave a reply. -/
def settle (place : Place) (key : RoleKey) :
    Except Failure (Option Role) → Except Problem Role
  | .error failure => throw (.directory failure)
  | .ok none => throw (.notFound .role key.handle place)
  | .ok (some found) => pure (key.complete found)

/-- The roles of references, given the replies to those that were looked up; the first that
fails is reported. -/
def settleAll (place : Place) :
    List RoleKey → List (Except Failure (Option Role)) → Except Problem (List Role)
  | [], _ => pure []
  | known role :: keys, replies => do
    let roles ← settleAll place keys replies
    pure (role :: roles)
  | key :: keys, replies => do
    let role ← settle place key (replies.headD (.ok none))
    let roles ← settleAll place keys replies.tail
    pure (role :: roles)

/-- Finds the roles of references; all lookups are made together. -/
def findAll (realm : String) (group : String) (client : Option ClientTarget)
    (keys : List RoleKey) : Program (List Role) :=
  .gather realm (keys.filterMap (query? group (ClientTarget.scope client))) fun replies =>
    match settleAll (ClientTarget.place realm client) keys replies with
    | .ok roles => .done roles
    | .error problem => .fail problem

end RoleKey

end GroupRoles
