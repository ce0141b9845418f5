import GroupRoles.Proofs.Memory.Outcome
import Mathlib.Data.List.Nodup

/-!
# Removing leaves what is inherited

A removal takes roles from those that are mapped, but what it is chosen by, the roles that a group
has, goes through links as well. Where names tell roles apart, no desired role is mapped any more
after a run (`Fulfilled.not_mem_direct`), so that the group has exactly those it inherits. A further
run finds these again and has nothing to take (`absent_repeated`).
-/

namespace GroupRoles.Memory

namespace Realm

variable {realm : Realm} {group : String} {scope : Scope} {role : Role}

/-- A group has a role that is not mapped to it exactly when it inherits it. -/
theorem mem_effective_iff_inherited (hrole : role ∈ realm.roles scope)
    (hdirect : role.id ∉ realm.direct group scope) :
    role ∈ realm.effective group scope ↔
      Inherited (realm.catalog scope) (realm.direct group scope) role.id := by
  rw [mem_effective, reached_iff]
  exact ⟨fun h => h.2.resolve_left hdirect, fun h => ⟨hrole, .inr h⟩⟩

end Realm

section Changes

variable {realm : Realm} {plan : Plan} {role : Role}

/-- What removing goes by: names tell the roles of the scope apart, the desired roles are among
them, and the survey is of this realm. -/
structure Removes (realm : Realm) (plan : Plan) : Prop where
  names : ((realm.roles plan.scope).map Role.name).Nodup
  desired : ∀ role ∈ plan.desired, role ∈ realm.roles plan.scope
  survey : plan.survey = realm.survey plan.group.id plan.scope

theorem Removes.of_plan {request : Request} (hlists : realm.Lists request)
    (hnames : realm.NamesApart request) (hplan : realm.plan? request = some plan) :
    Removes realm plan := by
  obtain ⟨-, hscope, -, -, hsurvey⟩ := Realm.plan?_eq_some.mp hplan
  exact ⟨hnames plan.scope hscope, Realm.desired_mem_roles hlists hplan, hsurvey⟩

/-- The changes of a plan that removes roles are the desired roles that the group has. -/
theorem Removes.mem_changes (h : Removes realm plan) :
    role ∈ plan.changes .absent ↔
      role ∈ plan.desired ∧ role ∈ realm.effective plan.group.id plan.scope := by
  have hshown : plan.survey.concerned .absent = realm.effective plan.group.id plan.scope := by
    rw [h.survey]
    rfl
  rw [← hshown]
  refine Goal.mem_changes_iff (fun a ha b hb he => List.inj_on_of_nodup_map h.names ha hb he)
    h.desired fun a ha => ?_
  rw [hshown] at ha
  exact (Realm.mem_effective.mp ha).1

/-- No desired role is mapped after the changes of a plan that removes roles. -/
theorem Removes.not_mem_direct (h : Removes realm plan) (hrole : role ∈ plan.desired) :
    role.id ∉ Realm.changeIds .absent (realm.direct plan.group.id plan.scope)
      (plan.changes .absent) := by
  rw [Realm.mem_changeIds_absent]
  rintro ⟨hdirect, hkept⟩
  -- a mapped role is one that the group has, and so it was among those removed
  have heffective : role ∈ realm.effective plan.group.id plan.scope :=
    Realm.mem_effective.mpr ⟨h.desired role hrole, .of_mem hdirect⟩
  exact hkept (List.mem_map_of_mem (h.mem_changes.mpr ⟨hrole, heffective⟩))

end Changes

section Runs

variable {request : Request} {plan : Plan} {report : Report} {role : Role}
  {before after : Store}

/-- After a run that removes roles, no desired role is mapped. -/
theorem Fulfilled.not_mem_direct (h : Fulfilled request plan report before after)
    (hgoal : request.goal = .absent) (hremoves : Removes (before.realms.get request.realm) plan)
    (hrole : role ∈ plan.desired) :
    role.id ∉ (after.realms.get request.realm).direct plan.group.id plan.scope := by
  rw [h.shifted.direct, hgoal]
  exact hremoves.not_mem_direct hrole

/-- After a run that removes roles, the group has the desired roles that it inherits. -/
theorem Fulfilled.mem_effective_iff (h : Fulfilled request plan report before after)
    (hgoal : request.goal = .absent) (hremoves : Removes (before.realms.get request.realm) plan)
    (hrole : role ∈ plan.desired) :
    role ∈ (after.realms.get request.realm).effective plan.group.id plan.scope ↔
      Inherited ((after.realms.get request.realm).catalog plan.scope)
        ((after.realms.get request.realm).direct plan.group.id plan.scope) role.id := by
  refine Realm.mem_effective_iff_inherited ?_ (h.not_mem_direct hgoal hremoves hrole)
  rw [h.shifted.roles_eq]
  exact hremoves.desired role hrole

/-- A removal of roles that are not mapped leaves every mapping as it is. -/
theorem Shifted.direct_eq {name : String} {group : String} {scope : Scope} {roles : List Role}
    {before after : Table String Realm} (h : Shifted name .absent group scope roles before after)
    (hroles : ∀ role ∈ roles, role.id ∉ (before.get name).direct group scope)
    (realm other : String) (scope' : Scope) :
    (after.get realm).direct other scope' = (before.get realm).direct other scope' := by
  by_cases hrealm : realm = name
  · subst hrealm
    by_cases hsite : (other, scope') = (group, scope)
    · cases hsite
      rw [h.direct, Realm.changeIds_absent_eq_self hroles]
    · exact h.others other scope' hsite
  · rw [h.realms realm hrealm]

end Runs

namespace Store

/-- A live run that removes roles and has a report, where names tell the roles of the scope apart.
The group then has exactly those desired roles that it inherits from what is still mapped to it.
If no reference is by id alone, the same request has a report again: it leaves all mapped roles
as they are and the group with the same roles, and what it removes once more are exactly the
desired roles that are inherited. -/
theorem absent_repeated (store : Store) (request : Request) (report : Report)
    (hgoal : request.goal = .absent) (hlive : request.dryRun = false)
    (hlists : (store.realms.get request.realm).Lists request)
    (hnames : (store.realms.get request.realm).NamesApart request)
    (hok : (request.fulfil.run directory store).result = .ok report) :
    ∃ plan, (store.realms.get request.realm).plan? request = some plan ∧
      let after := (request.fulfil.run directory store).state
      let again := request.fulfil.run directory after
      let Kept := fun role : Role =>
        Inherited ((after.realms.get request.realm).catalog plan.scope)
          ((after.realms.get request.realm).direct plan.group.id plan.scope) role.id
      (∀ role ∈ plan.desired, role ∈ report.endState ↔ Kept role) ∧
      ((∀ id, .byId id ∉ request.references) →
        ∃ report', again.result = .ok report' ∧
          (∀ realm group scope, (again.state.realms.get realm).direct group scope =
            (after.realms.get realm).direct group scope) ∧
          report'.endState = report.endState ∧
          (∀ role, role ∈ report'.changes ↔ role ∈ plan.desired ∧ Kept role) ∧
          (report'.changed = true ↔ ∃ role ∈ plan.desired, Kept role)) := by
  obtain ⟨hcheck, plan, hdone⟩ := fulfilled_of_ok hlive hok
  have hremoves := Removes.of_plan hlists hnames hdone.planned
  refine ⟨plan, hdone.planned, ?_⟩
  intro after again Kept
  refine ⟨fun role hrole => ?_, fun hkeys => ?_⟩
  · rw [hdone.endState_of_mem hrole]
    exact hdone.mem_effective_iff hgoal hremoves hrole
  -- the second run has the same plan, but for the survey
  have hshifted := hdone.shifted
  have hplan := Realm.plan?_congr hshifted.groups hshifted.clients hshifted.catalogs hkeys
    hdone.planned
  have hremoves' : Removes (after.realms.get request.realm)
      { plan with
        survey := (after.realms.get request.realm).survey plan.group.id plan.scope } := by
    refine ⟨?_, ?_, rfl⟩
    · rw [hshifted.roles_eq]
      exact hremoves.names
    · rw [hshifted.roles_eq]
      exact hremoves.desired
  obtain ⟨report', hok'⟩ := exists_report hlive hcheck hplan hremoves'.desired
  obtain ⟨-, plan', hagain⟩ := fulfilled_of_ok hlive hok'
  obtain rfl := Option.some.inj (hplan.symm.trans hagain.planned)
  have hchanges : ∀ role, role ∈ report'.changes ↔ role ∈ plan.desired ∧ Kept role := by
    intro role
    rw [hagain.changes, hgoal, hremoves'.mem_changes]
    exact and_congr_right fun hrole => hdone.mem_effective_iff hgoal hremoves hrole
  have hdirect : ∀ realm group scope, (again.state.realms.get realm).direct group scope =
      (after.realms.get realm).direct group scope := by
    have hshifted' := hagain.shifted
    rw [← hagain.changes, hgoal] at hshifted'
    refine hshifted'.direct_eq fun role hrole => ?_
    exact hdone.not_mem_direct hgoal hremoves ((hchanges role).mp hrole).1
  refine ⟨report', hok', hdirect, ?_, hchanges, ?_⟩
  · rw [hagain.endState, hdone.endState,
      Realm.effective_congr (hagain.shifted.catalog plan.scope) (hdirect _ _ _)]
  · rw [hagain.changed, ← hagain.changes, Bool.not_eq_true', List.isEmpty_eq_false_iff_exists_mem]
    exact exists_congr hchanges

/-- Of two mapped roles that are removed, one is included by a role that stays mapped, and includes
that one in turn: the group keeps it, and a further run removes it again without effect. -/
theorem absent_repeated_cycle :
    let realm : Realm :=
      { groups := [⟨"g1", "staff"⟩]
        clients := [⟨"c1", "portal"⟩]
        catalogs := ⟨[(some "c1", [⟨⟨"r1", "admin"⟩, ["r2"]⟩, ⟨⟨"r2", "editor"⟩, ["r1"]⟩,
          ⟨⟨"r3", "reader"⟩, []⟩])]⟩
        mappings := ⟨[(("g1", some "c1"), ["r1", "r2", "r3"])]⟩ }
    let store : Store := { realms := ⟨[("master", realm)]⟩ }
    let request : Request :=
      { goal := .absent
        group := { name := some "staff" }
        client := some { clientId := some "portal" }
        roles := some [{ name := some "editor" }, { id := some "r3", name := some "reader" }] }
    let after := (request.fulfil.run directory store).state
    ∃ report report', (request.fulfil.run directory store).result = .ok report ∧
      report.endState = [⟨"r1", "admin"⟩, ⟨"r2", "editor"⟩] ∧
      (request.fulfil.run directory after).result = .ok report' ∧
      report'.endState = report.endState ∧ report'.changes = [⟨"r2", "editor"⟩] := by
  intro realm store request after
  have hend : (request.fulfil.run directory store).result.toOption.map Report.endState =
      some [⟨"r1", "admin"⟩, ⟨"r2", "editor"⟩] := by decide +kernel
  have hagain : (request.fulfil.run directory after).result.toOption.map Report.changes =
      some [⟨"r2", "editor"⟩] := by decide +kernel
  have hreferences : request.references = [.byName "editor", .known ⟨"r3", "reader"⟩] := rfl
  have hlists : (store.realms.get request.realm).Lists request := by
    intro scope hscope role hrole
    have hscope : some "c1" = scope := Option.some.inj hscope
    have hrole : role = ⟨"r3", "reader"⟩ := by
      rw [hreferences] at hrole
      simpa using hrole
    rw [hrole, ← hscope]
    decide +kernel
  have hnames : (store.realms.get request.realm).NamesApart request := by
    intro scope hscope
    have hscope : some "c1" = scope := Option.some.inj hscope
    rw [← hscope]
    decide +kernel
  have hkeys : ∀ id, .byId id ∉ request.references := by
    intro id
    rw [hreferences]
    simp
  cases hresult : (request.fulfil.run directory store).result with
  | error problem =>
    rw [hresult] at hend
    cases hend
  | ok report =>
    obtain ⟨plan, -, -, hrepeat⟩ :=
      absent_repeated store request report rfl rfl hlists hnames hresult
    obtain ⟨report', hok', -, hsame, -⟩ := hrepeat hkeys
    rw [hresult] at hend
    rw [hok'] at hagain
    exact ⟨report, report', rfl, Option.some.inj hend, hok', hsame, Option.some.inj hagain⟩

end Store

end GroupRoles.Memory
