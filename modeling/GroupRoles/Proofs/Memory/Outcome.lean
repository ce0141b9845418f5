import GroupRoles.Proofs.Fulfil.Changes
import GroupRoles.Proofs.Memory.Ending

/-!
# What a live run does to a store

`Fulfilled` says what a live run with a report did: the store was changed as the plan of the
request in it says, and the report tells the roles of the group afterwards. Every such run is of
this kind (`fulfilled_of_ok`); and `exists_report_iff` says when a live run has a report.
-/

namespace GroupRoles.Memory

open Program

/-- What a live run with a report did, by the plan of its request in the store before it. -/
structure Fulfilled (request : Request) (plan : Plan) (report : Report) (before after : Store) :
    Prop where
  planned : (before.realms.get request.realm).plan? request = some plan
  shifted : Shifted request.realm request.goal plan.group.id plan.scope
    (plan.changes request.goal) before.realms after.realms
  changes : report.changes = plan.changes request.goal
  changed : report.changed = !(plan.changes request.goal).isEmpty
  endState : report.endState =
    if request.roles.isSome then (after.realms.get request.realm).effective plan.group.id plan.scope
    else []

/-- When there are desired roles, the report has the roles of the group afterwards. -/
theorem Fulfilled.endState_of_mem {request : Request} {plan : Plan} {report : Report} {role : Role}
    {before after : Store} (h : Fulfilled request plan report before after)
    (hrole : role ∈ plan.desired) :
    report.endState = (after.realms.get request.realm).effective plan.group.id plan.scope := by
  rw [h.endState]
  cases hroles : request.roles with
  | some entries => rfl
  | none =>
    rw [Realm.desired_eq_nil h.planned hroles] at hrole
    cases hrole

namespace Store

variable {store : Store} {request : Request} {plan : Plan} {report : Report}

/-- What a live run with a report did. -/
theorem fulfilled_of_ok (hlive : request.dryRun = false)
    (hok : (request.fulfil.run directory store).result = .ok report) :
    request.checkReferences.isOk = true ∧
      ∃ plan, Fulfilled request plan report store (request.fulfil.run directory store).state := by
  have hending := ending_of_run store request
  rw [hok] at hending
  by_cases hplanned : ∃ plan, Planned request store.realms plan
  · obtain ⟨plan, hplan⟩ := hplanned
    rcases hending.completed_or hplan with ⟨-, other, hother, hdone⟩ | ⟨-, hfail, -⟩
    · obtain rfl := Except.ok.inj hother
      exact ⟨hplan.sound, plan, hplan.plan?_eq, hdone.shifted hlive, hdone.changes_eq,
        hdone.changed_eq, hdone.endState_eq⟩
    · cases hfail
  · obtain ⟨hfail, -⟩ := hending.of_unplanned fun plan hplan => hplanned ⟨plan, hplan⟩
    cases hfail

/-- A live run has a report exactly when the references of the request are sound and mean
something, and the catalog has the ids of the roles to be changed. -/
theorem exists_report_iff (hlive : request.dryRun = false) :
    (∃ report, (request.fulfil.run directory store).result = .ok report) ↔
      request.checkReferences.isOk = true ∧
        ∃ plan, (store.realms.get request.realm).plan? request = some plan ∧
          (store.realms.get request.realm).Knows plan.scope (plan.changes request.goal) := by
  have hending := ending_of_run store request
  have hnotDry : ¬ request.dryRun = true := Bool.eq_false_iff.mp hlive
  constructor
  · rintro ⟨report, hok⟩
    rw [hok] at hending
    by_cases hplanned : ∃ plan, Planned request store.realms plan
    · obtain ⟨plan, hplan⟩ := hplanned
      rcases hending.completed_or hplan with ⟨hfeasible, -⟩ | ⟨-, hfail, -⟩
      · exact ⟨hplan.sound, plan, hplan.plan?_eq, hfeasible.resolve_left hnotDry⟩
      · cases hfail
    · obtain ⟨hfail, -⟩ := hending.of_unplanned fun plan hplan => hplanned ⟨plan, hplan⟩
      cases hfail
  · rintro ⟨hsound, plan, hplan, hknows⟩
    rcases hending.completed_or ⟨hsound, hplan⟩ with ⟨-, report, hok, -⟩ | ⟨hfails, -⟩
    · exact ⟨report, hok⟩
    · exact absurd (.inr hknows) hfails

/-- A request whose references are sound and mean something has a report, if the desired roles
are roles of the scope. -/
theorem exists_report (hlive : request.dryRun = false)
    (hcheck : request.checkReferences.isOk = true)
    (hplan : (store.realms.get request.realm).plan? request = some plan)
    (hroles : ∀ role ∈ plan.desired, role ∈ (store.realms.get request.realm).roles plan.scope) :
    ∃ report, (request.fulfil.run directory store).result = .ok report :=
  (exists_report_iff hlive).mpr ⟨hcheck, plan, hplan, fun role hrole =>
    List.mem_map_of_mem (hroles role (Goal.mem_changes hrole).1)⟩

end Store

end GroupRoles.Memory
