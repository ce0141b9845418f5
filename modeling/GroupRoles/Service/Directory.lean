import GroupRoles.Directory.Program
import GroupRoles.Service.Token

/-!
# The directory behind the service

Every call is one request with a token. A lookup of a role by its name finds nothing when the
service answers 404; any other answer without success is a failure that names the request.
-/

namespace GroupRoles.Service

open Http

/-! ## What the service answers -/

/-- A group and the groups below it. -/
inductive GroupTree where
  | node (id name : String) (subgroups : List GroupTree)
deriving Repr, Inhabited

/-- A client with its internal id. -/
structure ClientItem where
  id : String
  clientId : String
deriving Repr, DecidableEq

namespace GroupTree

/-- The id of the group. -/
def id : GroupTree → String
  | node id _ _ => id

/-- The name of the group. -/
def name : GroupTree → String
  | node _ name _ => name

/-- The groups below. -/
def subgroups : GroupTree → List GroupTree
  | node _ _ subgroups => subgroups

/-- Groups nested less than a number of levels deep. -/
def shape : Nat → Shape GroupTree
  | 0 => { read := fun _ _ => throw (Fault.loose .malformed), write := fun _ => .null }
  | depth + 1 =>
    .record "GroupRepresentation" <|
      ((Fields.field "id" .text).both
        ((Fields.field "name" .text).both
          (.field "subGroups" (.list (shape depth)) (some [])))).build
        (fun (id, name, subgroups) => node id name subgroups)
        (fun g => (g.id, g.name, g.subgroups))

mutual

/-- The first group of the name in a tree, the group itself before those below it. -/
def find? (name : String) : GroupTree → Option Group
  | node id own subgroups =>
    if own = name then some ⟨id, own⟩ else findFirst? name subgroups

/-- The first group of the name in trees, from left to right. -/
def findFirst? (name : String) : List GroupTree → Option Group
  | [] => none
  | tree :: rest =>
    match find? name tree with
    | some group => some group
    | none => findFirst? name rest

end

end GroupTree

/-- The fields of a client. -/
def ClientItem.shape : Shape ClientItem :=
  .record "ClientRepresentation" <|
    ((Fields.field "id" .text).both (.field "clientId" .text)).build
      (fun (id, clientId) => ⟨id, clientId⟩) (fun c => (c.id, c.clientId))

/-! ## Requests -/

section

variable {σ : Type} (n : Network σ) (s : Service)

/-- What was being done when a request failed. -/
def sending (method : Method) (url : Url) : String :=
  s!"{method.name} {url.text} failed"

/-- The body of a request that changes roles. -/
def rolesBody (roles : List Role) : Body :=
  .json ((Shape.list Role.shape).write roles).compactText

/-- Sends a request with a token. -/
def request (method : Method) (url : Url) (body : Body) : Step σ Failure Response := do
  let bearer ← ExceptT.adapt (fun fault => ({ cause := .service fault } : Failure)) (token n s)
  let r : Http.Request := { method, url, bearer := some bearer, body }
  let reply ← if r.sendable then transmit n r else pure (throw .unsendable)
  match reply with
  | .ok response => pure response
  | .error fault => throw ⟨[sending method url], .transport fault⟩

/-- Refuses a response without success; one that refuses the token also drops it. -/
def accept (method : Method) (url : Url) (response : Response) : Step σ Failure Unit := do
  if response.isSuccess then pure ()
  else do
    if response.status = 401 then forget
    throw
      { cause := .service (.status method.name url.text response.status
          (errorText (Text.Utf8.lossy response.body))) }

/-- The value that the body of a response holds. -/
def readBody {α : Type} (shape : Shape α) (url : Url) (response : Response) :
    Step σ Failure α :=
  match decode shape response.body with
  | .ok a => pure a
  | .error fault => throw ⟨[s!"invalid response body from GET {url.text}"], .transport fault⟩

/-- Reads a resource. -/
def fetch {α : Type} (shape : Shape α) (url : Url) : Step σ Failure α := do
  let response ← request n s .get url .none
  accept .get url response
  readBody shape url response

/-- Reads a resource that need not exist. -/
def fetch? {α : Type} (shape : Shape α) (url : Url) : Step σ Failure (Option α) := do
  let response ← request n s .get url .none
  if response.status = 404 then pure none
  else do
    accept .get url response
    some <$> readBody shape url response

/-- Sends roles. -/
def sendRoles (method : Method) (url : Url) (roles : List Role) : Step σ Failure Unit := do
  let response ← request n s method url (rolesBody roles)
  accept method url response

/-! ## Calls -/

/-- How deep the groups of an answer may nest. -/
def maxGroupDepth : Nat := Json.maxDepth

/-- The method that changes roles. -/
def changeMethod : Goal → Method
  | .present => .post
  | .absent => .delete

/-- Makes a call. -/
def perform : (c : Call) → Step σ Failure c.Answer
  | .group realm name => do
    let trees ← fetch n s (.list (GroupTree.shape maxGroupDepth)) (s.groupSearchUrl realm name)
    pure (GroupTree.findFirst? name trees)
  | .client realm clientId => do
    let clients ← fetch n s (.list ClientItem.shape) (s.clientSearchUrl realm clientId)
    pure ((clients.find? (·.clientId = clientId)).map ClientItem.id)
  | .role realm (.named scope name) => fetch? n s Role.shape (s.roleUrl realm scope name)
  | .role realm (.mapped group scope id) => do
    let roles ← fetch n s (.list Role.shape) (s.mappingUrl realm group scope .direct)
    pure (roles.find? (·.id = id))
  | .available realm group scope =>
    fetch n s (.list Role.shape) (s.mappingUrl realm group scope .available)
  | .assigned realm group scope =>
    fetch n s (.list Role.shape) (s.mappingUrl realm group scope .effective)
  | .change realm goal group scope roles =>
    sendRoles n s (changeMethod goal) (s.mappingUrl realm group scope .direct) roles

/-- The directory behind a service, reached over a network. -/
def directory : Directory (Session σ) where
  answer c session := (perform n s c).run.run session

end

end GroupRoles.Service
