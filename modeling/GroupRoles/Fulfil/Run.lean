import GroupRoles.Fulfil.Summary
import GroupRoles.Request

/-!
# Running a request

Find the group, the client and the roles; survey the group's roles; find the changes; make
them; report. Whatever goes wrong before the change leaves the directory as it was, and a
request with an empty reference makes no call at all.
-/

namespace GroupRoles.Request

/-- The program of a request whose references are sound. -/
def fulfilKeys (request : Request) (keys : Option (List RoleKey)) : Program Report := do
  let realm := request.realm
  let group ← request.group.find realm
  let client ← ClientKey.find? realm request.client
  match keys with
  | none => pure .nothingSpecified
  | some keys => do
    let scope := ClientTarget.scope client
    let desired ← RoleKey.findAll realm group.id client keys
    let survey ← Survey.read realm group.id scope
    let changes := request.goal.changes survey desired
    let effect ← request.goal.apply realm group.id scope changes request.dryRun
    pure (.of group request.goal request.wantDelta keys desired survey.assigned changes effect)

/-- The references of a request identify something. -/
def checkReferences (request : Request) : Except ReferenceFault (Option (List RoleKey)) := do
  request.group.check
  match request.client with
  | some client => client.check
  | none => pure ()
  request.roleKeys

/-- The program of a request. -/
def fulfil (request : Request) : Program Report := do
  let keys ← Program.check request.checkReferences
  request.fulfilKeys keys

end GroupRoles.Request
