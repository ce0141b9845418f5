import GroupRoles.Directory.Program
import GroupRoles.Directory.Table

/-!
# A directory in memory

Each realm has groups, clients, a catalog of roles for each scope, and for each group and scope
the roles that are mapped to it. A role may include other roles of its scope: a group has the
roles mapped to it and whatever those include, directly or through others.

Every call is counted, and the changing calls once more.
-/

namespace GroupRoles.Memory

/-- A role of a catalog and the ids of the roles that it includes. -/
structure CatalogEntry where
  role : Role
  members : List String := []
deriving Repr, DecidableEq

/-- A client with its internal id. -/
structure Client where
  id : String
  clientId : String
deriving Repr, DecidableEq

/-- A realm. -/
structure Realm where
  groups : List Group := []
  clients : List Client := []
  catalogs : Table Scope (List CatalogEntry) := {}
  /-- The ids of the roles mapped to a group in a scope. -/
  mappings : Table (String × Scope) (List String) := {}
deriving Repr, Inhabited

/-- All realms, and how many calls were made. -/
structure Store where
  realms : Table String Realm := {}
  calls : Nat := 0
  changes : Nat := 0
deriving Repr

/-! ## Reachable roles -/

/-- The ids that the first entry of an id includes. -/
def membersOf (catalog : List CatalogEntry) (id : String) : List String :=
  match catalog.find? (·.role.id = id) with
  | some entry => entry.members
  | none => []

/-- How many links leave the entries whose ids are not among those reached. -/
def openLinks (reached : List String) : List CatalogEntry → Nat
  | [] => 0
  | entry :: rest =>
    (if reached.contains entry.role.id then 0 else entry.members.length)
      + openLinks reached rest

theorem openLinks_cons_le (reached : List String) (id : String) (catalog : List CatalogEntry) :
    openLinks (id :: reached) catalog ≤ openLinks reached catalog := by
  induction catalog with
  | nil => simp [openLinks]
  | cons entry rest ih =>
    simp only [openLinks, List.contains_cons]
    cases (entry.role.id == id) <;> cases reached.contains entry.role.id <;> simp <;> omega

/-- Reaching an id closes at least the links of its first entry. -/
theorem membersOf_length_add_le (catalog : List CatalogEntry) {reached : List String}
    {id : String} (h : reached.contains id = false) :
    (membersOf catalog id).length + openLinks (id :: reached) catalog
      ≤ openLinks reached catalog := by
  induction catalog with
  | nil => simp [membersOf, openLinks]
  | cons entry rest ih =>
    by_cases he : entry.role.id = id
    · have hrest := openLinks_cons_le reached id rest
      simp only [membersOf, openLinks, he, List.find?_cons_of_pos, decide_true,
        List.contains_cons, h, beq_self_eq_true, Bool.true_or, if_true]
      simp
      omega
    · have hm : membersOf (entry :: rest) id = membersOf rest id := by
        simp [membersOf, he]
      simp only [hm, openLinks, List.contains_cons, beq_eq_false_iff_ne.mpr he, Bool.false_or]
      omega

/-- The ids reached from pending ones through the catalog's links, besides those reached
before. -/
def reach (catalog : List CatalogEntry) (reached pending : List String) : List String :=
  match pending with
  | [] => reached
  | id :: rest =>
    if reached.contains id then reach catalog reached rest
    else reach catalog (id :: reached) (membersOf catalog id ++ rest)
termination_by openLinks reached catalog + pending.length
decreasing_by
  · simp
  · rename_i h
    have := membersOf_length_add_le catalog (Bool.eq_false_iff.mpr h)
    simp
    omega

namespace Realm

/-- The roles of a scope. -/
def catalog (realm : Realm) (scope : Scope) : List CatalogEntry :=
  realm.catalogs.get scope

/-- The ids of the roles mapped to a group. -/
def direct (realm : Realm) (group : String) (scope : Scope) : List String :=
  realm.mappings.get (group, scope)

/-- The roles of the catalog with ids that pass a test. -/
def select (realm : Realm) (scope : Scope) (p : String → Bool) : List Role :=
  ((realm.catalog scope).filter fun entry => p entry.role.id).map CatalogEntry.role

/-- The roles of the scope that are not mapped to the group. -/
def available (realm : Realm) (group : String) (scope : Scope) : List Role :=
  realm.select scope fun id => !(realm.direct group scope).contains id

/-- The roles mapped to the group and whatever they include. -/
def effective (realm : Realm) (group : String) (scope : Scope) : List Role :=
  let reached := reach (realm.catalog scope) [] (realm.direct group scope)
  realm.select scope reached.contains

/-- The answer to a question for one role. -/
def role? (realm : Realm) : RoleQuery → Option Role
  | .named scope name =>
    ((realm.catalog scope).find? (·.role.name = name)).map CatalogEntry.role
  | .mapped group scope id =>
    ((realm.catalog scope).find? fun entry =>
      entry.role.id = id && (realm.direct group scope).contains id).map CatalogEntry.role

/-- The ids that are mapped after a change. -/
def changeIds (goal : Goal) (direct : List String) : List Role → List String
  | [] => direct
  | role :: rest =>
    let direct :=
      match goal with
      | .present => if direct.contains role.id then direct else direct ++ [role.id]
      | .absent => direct.filter (· ≠ role.id)
    changeIds goal direct rest

/-- The first role whose id is not in the catalog. -/
def unknown? (realm : Realm) (scope : Scope) (roles : List Role) : Option Role :=
  roles.find? fun role => !(realm.catalog scope).any (·.role.id = role.id)

/-- Maps or unmaps roles. -/
def change (realm : Realm) (goal : Goal) (group : String) (scope : Scope)
    (roles : List Role) : Realm :=
  { realm with
    mappings := realm.mappings.update (group, scope) fun direct => changeIds goal direct roles }

/-! ## Building a realm -/

/-- Adds a group. -/
def addGroup (realm : Realm) (group : Group) : Realm :=
  { realm with groups := realm.groups ++ [group] }

/-- Adds a client. -/
def addClient (realm : Realm) (client : Client) : Realm :=
  { realm with clients := realm.clients ++ [client] }

/-- Adds a role to a scope. -/
def addRole (realm : Realm) (scope : Scope) (role : Role) : Realm :=
  { realm with catalogs := realm.catalogs.update scope (· ++ [{ role }]) }

/-- Lets the first entry of a role include another role. -/
def includeIn (member id : String) : List CatalogEntry → List CatalogEntry
  | [] => []
  | entry :: rest =>
    if entry.role.id = id then { entry with members := entry.members ++ [member] } :: rest
    else entry :: includeIn member id rest

/-- Lets a role include another role of its scope. -/
def addMember (realm : Realm) (scope : Scope) (id member : String) : Realm :=
  { realm with catalogs := realm.catalogs.update scope (includeIn member id) }

/-- Maps a role to a group. -/
def addMapping (realm : Realm) (group : String) (scope : Scope) (id : String) : Realm :=
  { realm with mappings := realm.mappings.update (group, scope) (· ++ [id]) }

end Realm

namespace Store

/-- Changes a realm, which is empty unless it exists. -/
def edit (store : Store) (realm : String) (f : Realm → Realm) : Store :=
  { store with realms := store.realms.update realm f }

/-- The names of the roles that a group has. -/
def assignedNames (store : Store) (realm group : String) (scope : Scope) : List String :=
  ((store.realms.get realm).effective group scope).map Role.name

/-- The store after one more call. -/
def counted (store : Store) (isChange : Bool) : Store :=
  { store with
    calls := store.calls + 1
    changes := if isChange then store.changes + 1 else store.changes }

/-- Maps or unmaps roles, all or none of them: the realm and every role have to exist. -/
def change (store : Store) (realm : String) (goal : Goal) (group : String) (scope : Scope)
    (roles : List Role) : Except Failure Unit × Store :=
  match store.realms.get? realm with
  | none => (throw { cause := .unknownRealm realm }, store)
  | some r =>
    match r.unknown? scope roles with
    | some role => (throw { cause := .unknownRole role }, store)
    | none => (pure (), store.edit realm fun r => r.change goal group scope roles)

/-- The reply to a call, and the store after it. -/
def answer (c : Call) (store : Store) : Reply c × Store :=
  let store := store.counted c.isChange
  let realm := store.realms.get c.realm
  match c with
  | .group _ name => (pure (realm.groups.find? (·.name = name)), store)
  | .client _ clientId =>
    (pure ((realm.clients.find? (·.clientId = clientId)).map Client.id), store)
  | .role _ query => (pure (realm.role? query), store)
  | .available _ group scope => (pure (realm.available group scope), store)
  | .assigned _ group scope => (pure (realm.effective group scope), store)
  | .change name goal group scope roles => store.change name goal group scope roles

/-- The directory whose states are stores. -/
def directory : Directory Store where
  answer := answer

end Store

end GroupRoles.Memory
