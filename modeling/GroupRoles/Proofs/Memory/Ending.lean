import GroupRoles.Proofs.Memory.Batch
import GroupRoles.Proofs.Memory.Plan

/-!
# How a run on a store can end

`Ending` has one constructor for each way in which a run can end on the directory in memory: with
which result, and with which realms. `ending_of_run` says that every run is of one of these kinds,
so that a property of all runs is a case analysis, and no proof has to follow a run again. What the
cases have in common is said by `completed_or`: with a plan a run is `Completed`, or it fails and
changes nothing.
-/

namespace GroupRoles.Memory

open Program

/-- What a request has changed when its plan is carried out. -/
def batch (request : Request) (plan : Plan) : Batch :=
  ⟨request.realm, request.goal, plan.group.id, plan.scope, plan.changes request.goal⟩

/-- The references of a request are sound, and the plan is what it means in the realms. -/
structure Planned (request : Request) (realms : Table String Realm) (plan : Plan) : Prop where
  sound : request.checkReferences.isOk = true
  plan?_eq : (realms.get request.realm).plan? request = some plan

theorem Planned.survey_eq {request : Request} {realms : Table String Realm} {plan : Plan}
    (h : Planned request realms plan) :
    plan.survey = (realms.get request.realm).survey plan.group.id plan.scope := by
  obtain ⟨-, -, -, -, hsurvey⟩ := Realm.plan?_eq_some.mp h.plan?_eq
  exact hsurvey

/-- How a run can end: its result, and the realms after it. -/
inductive Ending (request : Request) (before : Table String Realm) :
    Except Problem Report → Table String Realm → Prop where
  | unplanned (hnone : ∀ plan, ¬ Planned request before plan) (problem : Problem) :
      Ending request before (.error problem) before
  | unspecified {plan : Plan} (hplan : Planned request before plan)
      (hroles : request.roles = none) :
      Ending request before (.ok .nothingSpecified) before
  | idle {plan : Plan} (hplan : Planned request before plan) (hroles : request.roles.isSome = true)
      (hnone : plan.changes request.goal = []) :
      Ending request before (.ok (request.report plan .nothing)) before
  | previewed {plan : Plan} (hplan : Planned request before plan)
      (hroles : request.roles.isSome = true) (hsome : plan.changes request.goal ≠ [])
      (hdry : request.dryRun = true) :
      Ending request before (.ok (request.report plan .previewed)) before
  | refused {plan : Plan} (hplan : Planned request before plan) (hlive : request.dryRun = false)
      (hunknown : ¬ (before.get request.realm).Knows plan.scope (plan.changes request.goal))
      (failure : Failure) :
      Ending request before (.error (.directory failure)) before
  | applied {plan : Plan} (hplan : Planned request before plan)
      (hroles : request.roles.isSome = true) (hsome : plan.changes request.goal ≠ [])
      (hlive : request.dryRun = false)
      (hknows : (before.get request.realm).Knows plan.scope (plan.changes request.goal))
      (hrealm : before.has request.realm = true) :
      Ending request before
        (.ok (request.report plan (.applied ((((batch request plan).make before).get
          request.realm).effective plan.group.id plan.scope))))
        ((batch request plan).make before)

/-! ## What an ending tells of the plan -/

/-- What becomes of the changes of a plan when nothing fails. -/
def effect (request : Request) (plan : Plan) (before : Table String Realm) : Effect :=
  if (plan.changes request.goal).isEmpty then .nothing
  else if request.dryRun then .previewed
  else
    .applied ((((batch request plan).make before).get request.realm).effective plan.group.id
      plan.scope)

/-- Nothing fails in a run of a plan: it is a dry one, or the catalog knows the ids of the
changes. -/
def Feasible (request : Request) (plan : Plan) (before : Table String Realm) : Prop :=
  request.dryRun = true ∨
    (before.get request.realm).Knows plan.scope (plan.changes request.goal)

/-- What a run of a plan comes to when nothing fails: it has the report of the plan, if there are
roles to tell of, and the realms are those after the batch, if one was made. -/
structure Completed (request : Request) (plan : Plan) (report : Report)
    (before after : Table String Realm) : Prop where
  planned : Planned request before plan
  report_eq : report =
    if request.roles.isSome then request.report plan (effect request plan before)
    else .nothingSpecified
  after_eq : after =
    if (plan.changes request.goal).isEmpty || request.dryRun then before
    else (batch request plan).make before

section

variable {request : Request} {plan : Plan} {before after : Table String Realm}
  {result : Except Problem Report} {report : Report}

/-- The realms tell the plan of a request. -/
theorem Planned.unique {other : Plan} (h : Planned request before plan)
    (hother : Planned request before other) : plan = other :=
  Option.some.inj (h.plan?_eq.symm.trans hother.plan?_eq)

/-- A request that names no roles has no changes. -/
theorem Planned.changes_eq_nil (h : Planned request before plan) (hroles : request.roles = none) :
    plan.changes request.goal = [] := by
  rw [Plan.changes, Realm.desired_eq_nil h.plan?_eq hroles]
  rfl

/-- A run whose plan has no changes does not fail. -/
theorem Feasible.of_changes_eq_nil (h : plan.changes request.goal = []) :
    Feasible request plan before := by
  refine .inr ?_
  rw [h]
  exact fun role hrole => absurd hrole List.not_mem_nil

/-- Without a plan a run fails and changes nothing. -/
theorem Ending.of_unplanned (h : Ending request before result after)
    (hnone : ∀ plan, ¬ Planned request before plan) : result.isOk = false ∧ after = before := by
  cases h with
  | unplanned _ problem => exact ⟨rfl, rfl⟩
  | unspecified hplan hroles => exact absurd hplan (hnone _)
  | idle hplan hroles hnil => exact absurd hplan (hnone _)
  | previewed hplan hroles hsome hdry => exact absurd hplan (hnone _)
  | refused hplan hlive hunknown failure => exact absurd hplan (hnone _)
  | applied hplan hroles hsome hlive hknows hrealm => exact absurd hplan (hnone _)

/-- With a plan a run is completed if it is feasible; else it fails and changes nothing. -/
theorem Ending.completed_or (h : Ending request before result after)
    (hplan : Planned request before plan) :
    (Feasible request plan before ∧
        ∃ report, result = .ok report ∧ Completed request plan report before after) ∨
      (¬ Feasible request plan before ∧ result.isOk = false ∧ after = before) := by
  -- the realms tell the plan, so the one that an ending is about is this one
  cases h with
  | unplanned hnone problem => exact absurd hplan (hnone plan)
  | unspecified hother hroles =>
    have hnil := hplan.changes_eq_nil hroles
    refine .inl ⟨.of_changes_eq_nil hnil, _, rfl, hplan, ?_, ?_⟩
    · rw [hroles]
      rfl
    · rw [hnil]
      rfl
  | idle hother hroles hnil =>
    obtain rfl := hplan.unique hother
    refine .inl ⟨.of_changes_eq_nil hnil, _, rfl, hplan, ?_, ?_⟩
    · rw [if_pos hroles, effect, hnil]
      rfl
    · rw [hnil]
      rfl
  | previewed hother hroles hsome hdry =>
    obtain rfl := hplan.unique hother
    have hempty := List.isEmpty_eq_false_iff.mpr hsome
    refine .inl ⟨.inl hdry, _, rfl, hplan, ?_, ?_⟩
    · rw [if_pos hroles, effect, hempty, hdry]
      rfl
    · rw [hdry, Bool.or_true]
      rfl
  | refused hother hlive hunknown failure =>
    obtain rfl := hplan.unique hother
    refine .inr ⟨?_, rfl, rfl⟩
    rintro (hdry | hknows)
    · rw [hlive] at hdry
      cases hdry
    · exact hunknown hknows
  | applied hother hroles hsome hlive hknows hrealm =>
    obtain rfl := hplan.unique hother
    have hempty := List.isEmpty_eq_false_iff.mpr hsome
    refine .inl ⟨.inr hknows, _, rfl, hplan, ?_, ?_⟩
    · rw [if_pos hroles, effect, hempty, hlive]
      rfl
    · rw [hempty, hlive]
      rfl

namespace Completed

/-- The report tells the changes of the plan. -/
theorem changes_eq (h : Completed request plan report before after) :
    report.changes = plan.changes request.goal := by
  rw [h.report_eq]
  split
  · rfl
  · next hroles => exact (h.planned.changes_eq_nil (Option.not_isSome_iff_eq_none.mp hroles)).symm

/-- The report says that something changed when there are changes. -/
theorem changed_eq (h : Completed request plan report before after) :
    report.changed = !(plan.changes request.goal).isEmpty := by
  rw [h.report_eq]
  split
  · show (effect request plan before).changed = _
    unfold effect
    cases (plan.changes request.goal).isEmpty <;> cases request.dryRun <;> rfl
  · next hroles =>
    rw [h.planned.changes_eq_nil (Option.not_isSome_iff_eq_none.mp hroles)]
    rfl

/-- The report tells the assigned roles of the survey. -/
theorem existing_eq (h : Completed request plan report before after)
    (hroles : request.roles.isSome = true) : report.existing = plan.survey.assigned := by
  rw [h.report_eq, if_pos hroles]
  rfl

/-- The report tells the roles that the group has after the run. -/
theorem endState_eq (h : Completed request plan report before after) :
    report.endState =
      if request.roles.isSome then
        (after.get request.realm).effective plan.group.id plan.scope
      else [] := by
  rw [h.report_eq]
  split
  · -- unless a batch was made, these are the roles of the survey
    have hassigned : plan.survey.assigned =
        (before.get request.realm).effective plan.group.id plan.scope := by
      rw [h.planned.survey_eq]
      rfl
    rw [h.after_eq]
    unfold effect
    cases (plan.changes request.goal).isEmpty with
    | true => exact hassigned
    | false =>
      cases request.dryRun with
      | true => exact hassigned
      | false => rfl
  · rfl

/-- A live run leaves the realms shifted by the changes of its plan. -/
theorem shifted (h : Completed request plan report before after) (hlive : request.dryRun = false) :
    Shifted request.realm request.goal plan.group.id plan.scope (plan.changes request.goal) before
      after := by
  rw [h.after_eq, hlive]
  cases hempty : (plan.changes request.goal).isEmpty with
  | true =>
    rw [List.isEmpty_iff.mp hempty]
    exact .refl before
  | false => exact shifted_make (batch request plan) before

end Completed

end

namespace Store

variable {store : Store} {request : Request} {plan : Plan} {realm group : String} {goal : Goal}
  {scope : Scope} {roles : List Role}

/-! ## Making changes -/

section

variable (store realm group goal scope)

/-- A change of some roles is answered when the realm exists and its catalog has their ids, and
refused otherwise. -/
theorem answer_change_cases (hsome : roles ≠ []) :
    ((answer (.change realm goal group scope roles) store).1 = .ok () ∧
        (store.realms.get realm).Knows scope roles ∧ store.realms.has realm = true) ∨
      ∃ failure, (answer (.change realm goal group scope roles) store).1 = .error failure ∧
        ¬ (store.realms.get realm).Knows scope roles := by
  cases hreply : (answer (.change realm goal group scope roles) store).1 with
  | ok _ =>
    obtain ⟨hrealm, hknows⟩ := (answer_change_eq_ok_iff store).mp hreply
    exact .inl ⟨rfl, hknows, hrealm⟩
  | error failure =>
    refine .inr ⟨failure, rfl, fun hknows => ?_⟩
    -- a realm whose catalog knows some role exists
    have hrealm : store.realms.has realm = true := by
      obtain ⟨role, rest, rfl⟩ := List.exists_cons_of_ne_nil hsome
      have hmem := hknows role List.mem_cons_self
      unfold Table.has
      cases hget : store.realms.get? realm with
      | some r => rfl
      | none =>
        rw [Table.get, hget] at hmem
        cases hmem
    have hok : (answer (.change realm goal group scope roles) store).1 = .ok () :=
      (answer_change_eq_ok_iff store).mpr ⟨hrealm, hknows⟩
    rw [hreply] at hok
    cases hok

/-- Making some changes either makes the batch and reads the roles of the group afterwards, or is
refused and leaves the realms as they were. -/
theorem run_apply_cases (hsome : roles ≠ []) :
    let run := (goal.apply realm group scope roles false).run directory store
    (run.result = .ok (.applied ((run.state.realms.get realm).effective group scope)) ∧
        run.state.realms = Batch.make ⟨realm, goal, group, scope, roles⟩ store.realms ∧
        (store.realms.get realm).Knows scope roles ∧ store.realms.has realm = true) ∨
      ∃ failure, run.result = .error (.directory failure) ∧ run.state.realms = store.realms ∧
        ¬ (store.realms.get realm).Knows scope roles := by
  have happly : goal.apply realm group scope roles false =
      .ask (.change realm goal group scope roles) fun _ =>
        .ask (.assigned realm group scope) fun endState => .done (.applied endState) := by
    rw [Goal.apply, List.isEmpty_eq_false_iff.mpr hsome]
    rfl
  have hstate := realms_answer_eq (.change realm goal group scope roles) store
  rw [happly]
  simp only [Program.run, directory]
  rcases answer_change_cases store realm group goal scope hsome with
    ⟨hanswer, hknows, hrealm⟩ | ⟨failure, hanswer, hunknown⟩
  · rw [hanswer] at hstate ⊢
    exact .inl ⟨rfl, hstate, hknows, hrealm⟩
  · rw [hanswer] at hstate ⊢
    exact .inr ⟨failure, rfl, hstate, hunknown⟩

end

/-! ## The run -/

/-- A plan that is carried out ends in one of the ways, by the realms that it was made for. -/
theorem ending_of_finish (hplan : Planned request store.realms plan) :
    Ending request store.realms
      ((request.finish (request.roles.map fun _ => plan)).run directory store).result
      ((request.finish (request.roles.map fun _ => plan)).run directory store).state.realms := by
  cases hroles : request.roles with
  | none => exact .unspecified hplan hroles
  | some entries =>
    have hspecified : request.roles.isSome = true := by rw [hroles]; rfl
    simp only [Option.map_some, Request.finish, bind_eq, run_bind]
    by_cases hnone : plan.changes request.goal = []
    · rw [hnone]
      exact .idle hplan hspecified hnone
    cases hdry : request.dryRun with
    | true =>
      rw [Goal.apply, List.isEmpty_eq_false_iff.mpr hnone]
      exact .previewed hplan hspecified hnone hdry
    | false =>
      rcases run_apply_cases store request.realm plan.group.id request.goal plan.scope hnone with
        ⟨hresult, hrealms, hknows, hrealm⟩ | ⟨failure, hresult, hrealms, hunknown⟩
      · have hdone := Ending.applied hplan hspecified hnone hdry hknows hrealm
        rw [batch, ← hrealms] at hdone
        simp only [hresult]
        exact hdone
      · simp only [hresult, hrealms]
        exact .refused hplan hdry hunknown failure

/-- Every run on a store ends in one of the ways. -/
theorem ending_of_run (store : Store) (request : Request) :
    Ending request store.realms (request.fulfil.run directory store).result
      (request.fulfil.run directory store).state.realms := by
  obtain ⟨-, hrealms⟩ := run_of_readOnly request.readOnly_prepare store
  rw [Request.fulfil_eq, run_bind]
  cases hprepare : (request.prepare.run directory store).result with
  | error problem =>
    show Ending request store.realms (.error problem)
      (request.prepare.run directory store).state.realms
    rw [hrealms]
    refine .unplanned (fun plan hplan => ?_) problem
    rw [prepare_eq_ok_iff.mpr ⟨hplan.sound, plan, hplan.plan?_eq, rfl⟩] at hprepare
    cases hprepare
  | ok found =>
    obtain ⟨hsound, plan, hplan, rfl⟩ := prepare_eq_ok_iff.mp hprepare
    -- preparing changed nothing, so the plan is one for the realms that are met after it
    have hplanned : Planned request (request.prepare.run directory store).state.realms plan := by
      rw [hrealms]
      exact ⟨hsound, hplan⟩
    have hfinish := ending_of_finish hplanned
    rw [hrealms] at hfinish
    exact hfinish

end Store

end GroupRoles.Memory
