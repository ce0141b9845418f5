import GroupRoles.Directory.Call
import GroupRoles.Http.Message
import GroupRoles.Url.Reader

/-!
# The directory service

Where the service is, and which credentials it is shown. Every resource of a realm has its own
URL below the base URL.
-/

namespace GroupRoles

/-- A directory service. -/
structure Service where
  base : Url
  credentials : Credentials
deriving Repr

namespace Service

/-- The service that a connection describes. -/
def ofConnection (c : Connection) (env : Environment) : Except ServiceFault Service := do
  let base ← (Url.ofText? c.baseUrl).mapError fun fault => .baseUrl c.baseUrl fault.message
  let credentials ← (c.credentials env).mapError .settings
  pure ⟨base, credentials⟩

/-- The realm that grants tokens; a given token needs none. -/
def grantRealm : Credentials → String
  | .password grant => grant.realm
  | .token _ => defaultRealm

/-- The URL that grants tokens. -/
def tokenUrl (s : Service) : Url :=
  s.base.extend ["realms", grantRealm s.credentials, "protocol", "openid-connect", "token"]

/-- The URL of a resource of a realm. -/
def adminUrl (s : Service) (realm : String) (segments : List String) : Url :=
  s.base.extend (["admin", "realms", realm] ++ segments)

/-- What is shown of a group's mappings. -/
inductive View where
  /-- The roles mapped to the group. -/
  | direct
  /-- The roles that could be mapped. -/
  | available
  /-- The roles mapped to the group and whatever they include. -/
  | effective
deriving Repr, DecidableEq

/-- The segment of a view. -/
def View.segments : View → List String
  | direct => []
  | available => ["available"]
  | effective => ["composite"]

/-- The segments of a scope. -/
def scopeSegments : Scope → List String
  | none => ["realm"]
  | some client => ["clients", client]

/-- The URL of a group's mappings. -/
def mappingUrl (s : Service) (realm group : String) (scope : Scope) (view : View) : Url :=
  s.adminUrl realm (["groups", group, "role-mappings"] ++ scopeSegments scope ++ view.segments)

/-- The URL of a role. -/
def roleUrl (s : Service) (realm : String) (scope : Scope) (name : String) : Url :=
  match scope with
  | none => s.adminUrl realm ["roles", name]
  | some client => s.adminUrl realm ["clients", client, "roles", name]

/-- The URL that searches groups. -/
def groupSearchUrl (s : Service) (realm name : String) : Url :=
  (s.adminUrl realm ["groups"]).addPair "search" name

/-- The URL that searches clients. -/
def clientSearchUrl (s : Service) (realm clientId : String) : Url :=
  (s.adminUrl realm ["clients"]).addPair "clientId" clientId

end Service

end GroupRoles
