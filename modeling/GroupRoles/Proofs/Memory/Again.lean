import GroupRoles.Proofs.Memory.Outcome

/-!
# Running a request again

A live run leaves groups, clients and catalogs as they are, and shows its goal no further role: so
the same request means the same afterwards and has no other changes than before. There is one
exception. A role that is referred to by its id alone is found among the mapped roles only, and once
a run has removed it, it cannot be found again (`repeated_fails_iff`).
-/

namespace GroupRoles.Memory

open Program

/-- After a change, the survey shows its goal no role that it did not show before. -/
theorem Shifted.concerned_subset {realm group : String} {goal : Goal} {scope : Scope}
    {roles : List Role} {before after : Table String Realm}
    (h : Shifted realm goal group scope roles before after) :
    ∀ role ∈ ((after.get realm).survey group scope).concerned goal,
      role ∈ ((before.get realm).survey group scope).concerned goal := by
  intro role hrole
  cases goal with
  | present =>
    -- mapped roles stay mapped, so none becomes available
    obtain ⟨hmem, hdirect⟩ := Realm.mem_available.mp hrole
    rw [h.roles_eq] at hmem
    rw [h.direct, Realm.mem_changeIds_present] at hdirect
    exact Realm.mem_available.mpr ⟨hmem, fun hmapped => hdirect (.inl hmapped)⟩
  | absent => exact h.effective_sublist_of_absent.subset hrole

section Runs

variable {request : Request} {plan : Plan} {report : Report} {before after : Store} {id : String}

/-- The group and the scope of a request stay what they are. -/
theorem Fulfilled.target_eq (h : Fulfilled request plan report before after) :
    (after.realms.get request.realm).group? request.group = some plan.group ∧
      (after.realms.get request.realm).scope? request = some plan.scope := by
  obtain ⟨hgroup, hscope, -, -, -⟩ := Realm.plan?_eq_some.mp h.planned
  rw [Realm.group?_congr h.shifted.groups, Realm.scope?, Realm.client?_congr h.shifted.clients]
  exact ⟨hgroup, hscope⟩

/-- An id that a request refers by alone is mapped after a live run unless the run removed it. -/
theorem Fulfilled.mem_direct_iff (h : Fulfilled request plan report before after)
    (hid : .byId id ∈ request.references) :
    id ∈ (after.realms.get request.realm).direct plan.group.id plan.scope ↔
      ¬ (request.goal = .absent ∧ id ∈ report.changes.map Role.id) := by
  have hdirect := Realm.mem_direct_of_byId h.planned hid
  rw [h.shifted.direct, ← h.changes]
  cases request.goal with
  | present =>
    rw [Realm.mem_changeIds_present]
    exact ⟨fun _ => nofun, fun _ => .inl hdirect⟩
  | absent =>
    rw [Realm.mem_changeIds_absent, and_iff_right hdirect]
    exact not_congr (and_iff_right rfl).symm

/-- The plan of the same request after a live run that removed no role that the request refers to
by id alone. -/
theorem Fulfilled.plan?_eq (h : Fulfilled request plan report before after)
    (hkept : ∀ id, .byId id ∈ request.references →
      ¬ (request.goal = .absent ∧ id ∈ report.changes.map Role.id)) :
    (after.realms.get request.realm).plan? request =
      some { plan with
        survey := (after.realms.get request.realm).survey plan.group.id plan.scope } := by
  have hshifted := h.shifted
  refine Realm.plan?_congr_of_mapped hshifted.groups hshifted.clients hshifted.catalogs
    (fun id hid => ?_) h.planned
  exact iff_of_true ((h.mem_direct_iff hid).mpr (hkept id hid))
    (Realm.mem_direct_of_byId h.planned hid)

/-- A reference that stands for nothing any more is an id by itself, and the run removed it. -/
theorem Fulfilled.removed_of_resolve? (h : Fulfilled request plan report before after)
    {key : RoleKey} (hkey : key ∈ request.references)
    (hnone : (after.realms.get request.realm).resolve? plan.group.id plan.scope key = none) :
    ∃ id, key = .byId id ∧ request.goal = .absent ∧ id ∈ report.changes.map Role.id := by
  obtain ⟨role, -, hresolve⟩ := Realm.exists_resolve? h.planned hkey
  refine Classical.byContradiction fun hremoved => ?_
  -- unless it is a removed id, a reference stands for the same role as before the run
  have hsame : (after.realms.get request.realm).resolve? plan.group.id plan.scope key =
      (before.realms.get request.realm).resolve? plan.group.id plan.scope key :=
    Realm.resolve?_congr (h.shifted.catalog plan.scope) fun id he =>
      iff_of_true ((h.mem_direct_iff (he ▸ hkey)).mpr fun hr => hremoved ⟨id, he, hr⟩)
        (Realm.mem_direct_of_byId h.planned (he ▸ hkey))
  rw [hnone, hresolve] at hsame
  cases hsame

/-- A request that has a plan after a live run finds all ids that it refers by alone. -/
theorem Fulfilled.kept_of_plan? (h : Fulfilled request plan report before after) {plan' : Plan}
    (hplan : (after.realms.get request.realm).plan? request = some plan')
    (hid : .byId id ∈ request.references) :
    ¬ (request.goal = .absent ∧ id ∈ report.changes.map Role.id) := by
  obtain ⟨hgroup, hscope⟩ := h.target_eq
  obtain ⟨hgroup', hscope', -, -, -⟩ := Realm.plan?_eq_some.mp hplan
  have hmapped := Realm.mem_direct_of_byId hplan hid
  rw [Option.some.inj (hgroup'.symm.trans hgroup),
    Option.some.inj (hscope'.symm.trans hscope)] at hmapped
  exact (h.mem_direct_iff hid).mp hmapped

/-- The changes of a plan in the store that a live run left are among those of the run. -/
theorem Fulfilled.mem_changes (h : Fulfilled request plan report before after) {role : Role}
    (hrole : role ∈ Plan.changes
      { plan with survey := (after.realms.get request.realm).survey plan.group.id plan.scope }
      request.goal) : role ∈ plan.changes request.goal := by
  obtain ⟨-, -, -, -, hsurvey⟩ := Realm.plan?_eq_some.mp h.planned
  refine Goal.mem_changes_of_concerned ?_ hrole
  rw [hsurvey]
  exact h.shifted.concerned_subset

end Runs

namespace Store

variable {store : Store} {request : Request} {report : Report}

/-- After a live run with a report, the same request has a report again, unless the run removed a
role that the request refers to by id alone. -/
theorem exists_report_again (hlive : request.dryRun = false)
    (hok : (request.fulfil.run directory store).result = .ok report)
    (hkept : ∀ id, .byId id ∈ request.references →
      ¬ (request.goal = .absent ∧ id ∈ report.changes.map Role.id)) :
    ∃ report', (request.fulfil.run directory
      (request.fulfil.run directory store).state).result = .ok report' := by
  obtain ⟨hcheck, plan, hdone⟩ := fulfilled_of_ok hlive hok
  obtain ⟨-, plan', hplan', hknows⟩ := (exists_report_iff hlive).mp ⟨report, hok⟩
  obtain rfl := Option.some.inj (hdone.planned.symm.trans hplan')
  refine (exists_report_iff hlive).mpr ⟨hcheck, _, hdone.plan?_eq hkept, fun role hrole => ?_⟩
  rw [hdone.shifted.roles_eq]
  exact hknows role (hdone.mem_changes hrole)

/-- What the same request fails with after a live run: a role is not found that the request refers
to by id alone and that the run removed. -/
theorem exists_removed_of_error {problem : Problem} (hlive : request.dryRun = false)
    (hok : (request.fulfil.run directory store).result = .ok report)
    (hfail : (request.fulfil.run directory
      (request.fulfil.run directory store).state).result = .error problem) :
    ∃ id place, request.goal = .absent ∧ .byId id ∈ request.references ∧
      id ∈ report.changes.map Role.id ∧ problem = .notFound .role (.id id) place := by
  obtain ⟨hcheck, plan, hdone⟩ := fulfilled_of_ok hlive hok
  cases hprepare : (request.prepare.run directory
      (request.fulfil.run directory store).state).result with
  | ok found =>
    -- what can be prepared again can also be done again
    obtain ⟨-, plan', hplan', -⟩ := prepare_eq_ok_iff.mp hprepare
    obtain ⟨report', hok'⟩ :=
      exists_report_again hlive hok fun id hid => hdone.kept_of_plan? hplan' hid
    rw [hfail] at hok'
    cases hok'
  | error other =>
    rw [Request.run_fulfil_of_error hprepare] at hfail
    cases hfail
    obtain ⟨hgroup, hscope⟩ := hdone.target_eq
    obtain ⟨key, hkey, hnone, place, rfl⟩ := prepare_eq_error hcheck hgroup hscope hprepare
    obtain ⟨id, rfl, hgoal, hid⟩ := hdone.removed_of_resolve? hkey hnone
    exact ⟨id, place, hgoal, hkey, hid, rfl⟩

/-- After a live run with a report, the same request fails exactly when the run removed a role that
the request refers to by id alone; and then such a role is not found. -/
theorem repeated_fails_iff (store : Store) (request : Request) (report : Report)
    (hlive : request.dryRun = false)
    (hok : (request.fulfil.run directory store).result = .ok report) :
    let again := request.fulfil.run directory (request.fulfil.run directory store).state
    let Removed := fun id => request.goal = .absent ∧ .byId id ∈ request.references ∧
      id ∈ report.changes.map Role.id
    (again.result.isOk = false ↔ ∃ id, Removed id) ∧
      ∀ problem, again.result = .error problem →
        ∃ id place, Removed id ∧ problem = .notFound .role (.id id) place := by
  intro again Removed
  have hproblem : ∀ problem, again.result = .error problem →
      ∃ id place, Removed id ∧ problem = .notFound .role (.id id) place := by
    intro problem hfail
    obtain ⟨id, place, hgoal, hid, hremoved, he⟩ := exists_removed_of_error hlive hok hfail
    exact ⟨id, place, ⟨hgoal, hid, hremoved⟩, he⟩
  refine ⟨⟨fun hfail => ?_, fun ⟨id, hgoal, hid, hremoved⟩ => ?_⟩, hproblem⟩
  · cases hresult : again.result with
    | ok report' =>
      rw [hresult] at hfail
      cases hfail
    | error problem =>
      obtain ⟨id, place, hremoved, -⟩ := hproblem problem hresult
      exact ⟨id, hremoved⟩
  · cases hresult : again.result with
    | error problem => rfl
    | ok report' =>
      obtain ⟨-, plan, hdone⟩ := fulfilled_of_ok hlive hok
      obtain ⟨-, plan', hplan', -⟩ := (exists_report_iff hlive).mp ⟨report', hresult⟩
      exact absurd ⟨hgoal, hremoved⟩ (hdone.kept_of_plan? hplan' hid)

/-- An inherited role by name and a mapped one by id: both are removed, and only the role by id is
in the way of a second run. -/
theorem repeated_fails_portal :
    let realm : Realm :=
      { clients := [⟨"c1", "portal"⟩]
        catalogs := ⟨[(some "c1", [⟨⟨"r1", "admin"⟩, ["r2"]⟩, ⟨⟨"r2", "editor"⟩, []⟩,
          ⟨⟨"r3", "reader"⟩, []⟩])]⟩
        mappings := ⟨[(("g1", some "c1"), ["r1", "r3"])]⟩ }
    let store : Store := { realms := ⟨[("master", realm)]⟩ }
    let request : Request :=
      { goal := .absent
        group := { id := some "g1" }
        client := some { clientId := some "portal" }
        roles := some [{ name := some "editor" }, { id := some "r3" }] }
    let again := request.fulfil.run directory (request.fulfil.run directory store).state
    ∃ report, (request.fulfil.run directory store).result = .ok report ∧
      report.changes = [⟨"r2", "editor"⟩, ⟨"r3", "reader"⟩] ∧ again.result.isOk = false ∧
      ∀ problem, again.result = .error problem →
        ∃ id place, problem = .notFound .role (.id id) place := by
  intro realm store request again
  have hchanges : (request.fulfil.run directory store).result.toOption.map Report.changes =
      some [⟨"r2", "editor"⟩, ⟨"r3", "reader"⟩] := by decide +kernel
  have hreferences : request.references = [.byName "editor", .byId "r3"] := rfl
  cases hresult : (request.fulfil.run directory store).result with
  | error problem =>
    rw [hresult] at hchanges
    cases hchanges
  | ok report =>
    rw [hresult] at hchanges
    have hchanges : report.changes = [⟨"r2", "editor"⟩, ⟨"r3", "reader"⟩] :=
      Option.some.inj hchanges
    obtain ⟨hfails, hproblem⟩ := repeated_fails_iff store request report rfl hresult
    refine ⟨report, rfl, hchanges, hfails.mpr ⟨"r3", rfl, ?_, ?_⟩, fun problem hfail => ?_⟩
    · rw [hreferences]
      exact List.mem_cons_of_mem _ List.mem_cons_self
    · rw [hchanges]
      decide
    · obtain ⟨id, place, -, he⟩ := hproblem problem hfail
      exact ⟨id, place, he⟩

/-- It is not so that a request can always be run again after a live run with a report. -/
theorem exists_repeated_failed :
    ¬ ∀ (store : Store) (request : Request) (report : Report), request.dryRun = false →
      (request.fulfil.run directory store).result = .ok report →
        (request.fulfil.run directory
          (request.fulfil.run directory store).state).result.isOk = true := by
  intro h
  let realm : Realm :=
    { catalogs := ⟨[(none, [⟨⟨"r1", "reader"⟩, []⟩])]⟩, mappings := ⟨[(("g1", none), ["r1"])]⟩ }
  let store : Store := { realms := ⟨[("master", realm)]⟩ }
  let request : Request :=
    { goal := .absent, group := { id := some "g1" }, roles := some [{ id := some "r1" }] }
  have hok : (request.fulfil.run directory store).result.isOk = true := by decide +kernel
  cases hresult : (request.fulfil.run directory store).result with
  | error problem =>
    rw [hresult] at hok
    cases hok
  | ok report =>
    have hagain := h store request report rfl hresult
    revert hagain
    decide +kernel

end Store

end GroupRoles.Memory
