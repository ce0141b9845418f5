import GroupRoles.Fulfil.Run
import GroupRoles.Proofs.Directory.Trace

/-!
# A run reads first and changes then

`Request.prepare` is all of a run that only reads. It ends with a `Plan`, or with none when the
request names no roles; `Request.finish` makes the plan's changes and reports. `fulfil_eq` says
that a run is the one after the other.
-/

namespace GroupRoles

open Program

/-- What a run goes on with once everything is read. -/
structure Plan where
  group : GroupTarget
  scope : Scope
  keys : List RoleKey
  desired : List Role
  survey : Survey

/-- The changes that a plan makes. -/
def Plan.changes (plan : Plan) (goal : Goal) : List Role :=
  goal.changes plan.survey plan.desired

namespace Request

/-- Reads all that a run needs, for a request whose references are sound. -/
def prepareKeys (request : Request) (keys : Option (List RoleKey)) : Program (Option Plan) := do
  let group ← request.group.find request.realm
  let client ← ClientKey.find? request.realm request.client
  match keys with
  | none => pure none
  | some keys => do
    let scope := ClientTarget.scope client
    let desired ← RoleKey.findAll request.realm group.id client keys
    let survey ← Survey.read request.realm group.id scope
    pure (some ⟨group, scope, keys, desired, survey⟩)

/-- Reads all that a run needs. -/
def prepare (request : Request) : Program (Option Plan) := do
  let keys ← Program.check request.checkReferences
  request.prepareKeys keys

/-- The report of a plan and of what became of its changes. -/
def report (request : Request) (plan : Plan) (effect : Effect) : Report :=
  .of plan.group request.goal request.wantDelta plan.keys plan.desired plan.survey.assigned
    (plan.changes request.goal) effect

/-- Makes the changes of a plan and reports. -/
def finish (request : Request) : Option Plan → Program Report
  | none => pure .nothingSpecified
  | some plan => do
    let effect ← request.goal.apply request.realm plan.group.id plan.scope
      (plan.changes request.goal) request.dryRun
    pure (request.report plan effect)

/-- A run reads, and then makes its changes and reports. -/
theorem fulfil_eq (request : Request) : request.fulfil = request.prepare.bind request.finish := by
  have hkeys : ∀ keys,
      request.fulfilKeys keys = (request.prepareKeys keys).bind request.finish := by
    intro keys
    simp only [fulfilKeys, prepareKeys, bind_eq, bind_assoc]
    congr 1
    funext group
    congr 1
    funext client
    cases keys with
    | none => rfl
    | some keys =>
      simp only [bind_assoc]
      rfl
  simp only [fulfil, prepare, bind_eq, bind_assoc]
  congr 1
  funext keys
  exact hkeys keys

/-- A run that cannot be prepared ends there. -/
theorem run_fulfil_of_error {σ : Type} {request : Request} {d : Directory σ} {s : σ}
    {problem : Problem} (h : (request.prepare.run d s).result = .error problem) :
    (request.fulfil.run d s).result = .error problem := by
  rw [fulfil_eq, run_bind, h]

/-! ## Preparing changes nothing -/

theorem readOnly_find (realm : String) (key : GroupKey) : (key.find realm).ReadOnly := by
  match key with
  | ⟨some id, name⟩ => trivial
  | ⟨none, none⟩ => trivial
  | ⟨none, some name⟩ =>
    refine ⟨rfl, fun found => ?_⟩
    cases found <;> trivial

theorem readOnly_find? (realm : String) (client : Option ClientKey) :
    (ClientKey.find? realm client).ReadOnly := by
  match client with
  | none => trivial
  | some ⟨some id, clientId⟩ => trivial
  | some ⟨none, none⟩ => trivial
  | some ⟨none, some clientId⟩ =>
    refine ⟨rfl, fun found => ?_⟩
    cases found <;> trivial

theorem readOnly_findAll (realm group : String) (client : Option ClientTarget)
    (keys : List RoleKey) : (RoleKey.findAll realm group client keys).ReadOnly := by
  refine ⟨fun q _ => rfl, fun replies => ?_⟩
  dsimp only
  split <;> trivial

theorem readOnly_read (realm group : String) (scope : Scope) :
    (Survey.read realm group scope).ReadOnly :=
  ⟨rfl, fun _ => ⟨rfl, fun _ => trivial⟩⟩

/-- Preparing changes nothing. -/
theorem readOnly_prepare (request : Request) : request.prepare.ReadOnly := by
  refine MakesOnly.bind ?_ fun keys => ?_
  · cases request.checkReferences <;> trivial
  refine MakesOnly.bind (readOnly_find _ _) fun group => ?_
  refine MakesOnly.bind (readOnly_find? _ _) fun client => ?_
  cases keys with
  | none => trivial
  | some keys =>
    refine MakesOnly.bind (readOnly_findAll _ _ _ _) fun desired => ?_
    exact MakesOnly.bind (readOnly_read _ _ _) fun survey => trivial

end Request

end GroupRoles
