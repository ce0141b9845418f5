import GroupRoles.Proofs.Memory.Outcome

/-!
# Assigning reaches the desired roles

What is to be assigned is found by name, among the roles that are not mapped; what the group has
is a matter of ids and of links between roles. The two meet in `name_mem_effective`: a desired
role whose name is among the available ones has the first desired role of that name mapped, and
any other desired role was mapped all along.
-/

namespace GroupRoles.Memory

namespace Realm

variable {realm : Realm} {group : String} {scope : Scope} {role : Role}

/-- A mapped role of the catalog is one that the group has. -/
theorem mem_effective_of_mem_direct (hrole : role ∈ realm.roles scope)
    (hdirect : role.id ∈ realm.direct group scope) : role ∈ realm.effective group scope :=
  mem_effective.mpr ⟨hrole, .of_mem hdirect⟩

end Realm

variable {name : String} {plan : Plan} {role : Role} {before after : Table String Realm}

/-- After the changes of a plan that assigns roles, the group has a role of every desired name. -/
theorem name_mem_effective
    (hshifted : Shifted name .present plan.group.id plan.scope (plan.changes .present) before after)
    (hsurvey : plan.survey = (before.get name).survey plan.group.id plan.scope)
    (hdesired : ∀ role ∈ plan.desired, role ∈ (before.get name).roles plan.scope)
    (hrole : role ∈ plan.desired) :
    role.name ∈ ((after.get name).effective plan.group.id plan.scope).map Role.name := by
  have hmapped : ∀ other ∈ plan.desired,
      other.id ∈ (before.get name).direct plan.group.id plan.scope ∨
        other ∈ plan.changes .present →
      other ∈ (after.get name).effective plan.group.id plan.scope := by
    intro other hother hcase
    refine Realm.mem_effective_of_mem_direct ?_ ?_
    · rw [hshifted.roles_eq]
      exact hdesired other hother
    · rw [hshifted.direct, Realm.mem_changeIds_present]
      exact hcase.imp_right List.mem_map_of_mem
  by_cases havailable : role.name ∈ (plan.survey.concerned .present).map Role.name
  · obtain ⟨first, hfirst, he⟩ := Goal.exists_mem_changes hrole havailable
    rw [← he]
    exact List.mem_map_of_mem (hmapped first (Goal.mem_changes hfirst).1 (.inr hfirst))
  · -- a role of the catalog that is not available is mapped
    refine List.mem_map_of_mem (hmapped role hrole (.inl ?_))
    refine Decidable.byContradiction fun hdirect => havailable (List.mem_map_of_mem ?_)
    rw [hsurvey]
    exact Realm.mem_available.mpr ⟨hdesired role hrole, hdirect⟩

namespace Store

/-- A live run that assigns roles and has a report leaves the group with a role of every desired
name, in the report and in the store, whether it made changes or found none to make. -/
theorem present_reached (store : Store) (request : Request) (report : Report)
    (hgoal : request.goal = .present) (hlive : request.dryRun = false)
    (hlists : (store.realms.get request.realm).Lists request)
    (hok : (request.fulfil.run directory store).result = .ok report) :
    ∃ plan, (store.realms.get request.realm).plan? request = some plan ∧
      ∀ role ∈ plan.desired,
        role.name ∈ report.endState.map Role.name ∧
          role.name ∈ (request.fulfil.run directory store).state.assignedNames request.realm
            plan.group.id plan.scope := by
  obtain ⟨-, plan, hdone⟩ := fulfilled_of_ok hlive hok
  refine ⟨plan, hdone.planned, fun role hrole => ?_⟩
  obtain ⟨-, -, -, -, hsurvey⟩ := Realm.plan?_eq_some.mp hdone.planned
  have hshifted := hdone.shifted
  rw [hgoal] at hshifted
  have hname := name_mem_effective hshifted hsurvey
    (Realm.desired_mem_roles hlists hdone.planned) hrole
  rw [hdone.endState_of_mem hrole]
  exact ⟨hname, hname⟩

/-- Two roles share a name, two include each other, and the references are of all three kinds:
only the first role of the shared name is mapped, and no desired name is missing. -/
theorem present_reached_cycle :
    let realm : Realm :=
      { catalogs := ⟨[(none, [⟨⟨"r1", "reader"⟩, ["r2"]⟩, ⟨⟨"r2", "writer"⟩, ["r1"]⟩,
          ⟨⟨"r3", "reader"⟩, []⟩])]⟩,
        mappings := ⟨[(("g1", none), ["r2"])]⟩ }
    let store : Store := { realms := ⟨[("master", realm)]⟩ }
    let request : Request :=
      { group := { id := some "g1" },
        roles := some [{ name := some "reader" }, { id := some "r2" },
          { id := some "r3", name := some "reader" }] }
    ∃ report plan, (request.fulfil.run directory store).result = .ok report ∧
      (store.realms.get "master").plan? request = some plan ∧
      plan.desired = [⟨"r1", "reader"⟩, ⟨"r2", "writer"⟩, ⟨"r3", "reader"⟩] ∧
      ∀ role ∈ plan.desired, role.name ∈ report.endState.map Role.name := by
  intro realm store request
  have hok : (request.fulfil.run directory store).result.isOk = true := by decide +kernel
  have hlists : (store.realms.get request.realm).Lists request := by
    intro scope hscope role hrole
    have hscope : none = scope := Option.some.inj hscope
    have hrole : role = ⟨"r3", "reader"⟩ := by
      have hreferences : request.references =
          [.byName "reader", .byId "r2", .known ⟨"r3", "reader"⟩] := rfl
      rw [hreferences] at hrole
      simpa using hrole
    rw [hrole, ← hscope]
    decide +kernel
  have hdesired : ((store.realms.get request.realm).plan? request).map Plan.desired =
      some [⟨"r1", "reader"⟩, ⟨"r2", "writer"⟩, ⟨"r3", "reader"⟩] := by decide +kernel
  cases hresult : (request.fulfil.run directory store).result with
  | error problem =>
    rw [hresult] at hok
    cases hok
  | ok report =>
    obtain ⟨plan, hplan, hnames⟩ := present_reached store request report rfl rfl hlists hresult
    rw [hplan] at hdesired
    exact ⟨report, plan, rfl, hplan, Option.some.inj hdesired, fun role h => (hnames role h).1⟩

end Store

end GroupRoles.Memory
