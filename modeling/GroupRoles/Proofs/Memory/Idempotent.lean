import GroupRoles.Proofs.Fulfil.Report
import GroupRoles.Proofs.Memory.Again
import Mathlib.Data.List.Nodup

/-!
# Assigning again changes nothing

What a second run would assign, the first one has assigned (`Fulfilled.mem_changes`), and so it is
mapped. Where names tell roles apart, no other role of its name is left to be shown as available:
there is nothing to assign (`present_repeated`).
-/

namespace GroupRoles.Memory

/-- After a run that assigns roles, there is nothing to assign for the same desired roles. -/
theorem Fulfilled.changes_again_eq_nil {request : Request} {plan : Plan} {report : Report}
    {before after : Store} (h : Fulfilled request plan report before after)
    (hgoal : request.goal = .present)
    (hlists : (before.realms.get request.realm).Lists request)
    (hnames : (before.realms.get request.realm).NamesApart request) :
    Plan.changes
      { plan with survey := (after.realms.get request.realm).survey plan.group.id plan.scope }
      request.goal = [] := by
  rw [List.eq_nil_iff_forall_not_mem]
  intro role hrole
  have hchanged := h.mem_changes hrole
  rw [hgoal] at hrole hchanged
  -- the run mapped this role
  have hmapped : role.id ∈ (after.realms.get request.realm).direct plan.group.id plan.scope := by
    rw [h.shifted.direct, hgoal, Realm.mem_changeIds_present]
    exact .inr (List.mem_map_of_mem hchanged)
  -- a role of its name is still available, and that can be no other
  obtain ⟨hdesired, hname⟩ := Goal.mem_changes hrole
  obtain ⟨shown, hshown, he⟩ := List.mem_map.mp hname
  obtain ⟨hmem, hdirect⟩ := Realm.mem_available.mp hshown
  rw [h.shifted.roles_eq] at hmem
  obtain ⟨-, hscope, -, -, -⟩ := Realm.plan?_eq_some.mp h.planned
  have hsame : shown = role := List.inj_on_of_nodup_map (hnames plan.scope hscope) hmem
    (Realm.desired_mem_roles hlists h.planned role hdesired) he
  exact hdirect (hsame ▸ hmapped)

namespace Store

/-- A live run that assigns roles and has a report, where names tell the roles of the scope apart
and references that give id and name are roles of it. The same request then has a report again: it
changes nothing and makes no changing call, and finds the roles that the first run left. -/
theorem present_repeated (store : Store) (request : Request) (report : Report)
    (hgoal : request.goal = .present) (hlive : request.dryRun = false)
    (hlists : (store.realms.get request.realm).Lists request)
    (hnames : (store.realms.get request.realm).NamesApart request)
    (hok : (request.fulfil.run directory store).result = .ok report) :
    let again := request.fulfil.run directory (request.fulfil.run directory store).state
    ∃ report', again.result = .ok report' ∧ report'.changed = false ∧ report'.changes = [] ∧
      (∀ call ∈ again.calls, call.isChange = false) ∧
      report'.existing = report.endState ∧ report'.endState = report.endState := by
  intro again
  have hkept : ∀ id, .byId id ∈ request.references →
      ¬ (request.goal = .absent ∧ id ∈ report.changes.map Role.id) := by
    rw [hgoal]
    exact fun _ _ => nofun
  obtain ⟨-, plan, hdone⟩ := fulfilled_of_ok hlive hok
  obtain ⟨report', hok'⟩ := exists_report_again hlive hok hkept
  obtain ⟨-, plan', hagain⟩ := fulfilled_of_ok hlive hok'
  obtain rfl := Option.some.inj ((hdone.plan?_eq hkept).symm.trans hagain.planned)
  have hnone := hdone.changes_again_eq_nil hgoal hlists hnames
  have hchanges : report'.changes = [] := hagain.changes.trans hnone
  obtain ⟨hchanged, hexisting, hcalls⟩ := Request.unchanged_of_changes_eq_nil hok' hchanges
  have hend : report'.endState = report.endState := by
    have hdirect := hagain.shifted.direct
    rw [hnone] at hdirect
    rw [hagain.endState, hdone.endState,
      Realm.effective_congr (hagain.shifted.catalog plan.scope) hdirect]
  exact ⟨report', hok', hchanged, hchanges, hcalls, hexisting.trans hend, hend⟩

/-- Two roles that include each other, one of them mapped, and references of all three kinds: the
included role is assigned although the group had it already, and then never again. -/
theorem present_repeated_cycle :
    let realm : Realm :=
      { groups := [⟨"g1", "staff"⟩]
        clients := [⟨"c1", "portal"⟩]
        catalogs := ⟨[(some "c1", [⟨⟨"r1", "admin"⟩, ["r2"]⟩, ⟨⟨"r2", "editor"⟩, ["r1"]⟩,
          ⟨⟨"r3", "reader"⟩, []⟩])]⟩
        mappings := ⟨[(("g1", some "c1"), ["r1"])]⟩ }
    let store : Store := { realms := ⟨[("master", realm)]⟩ }
    let request : Request :=
      { group := { name := some "staff" }
        client := some { clientId := some "portal" }
        roles := some [{ name := some "editor" }, { id := some "r1" }, { name := some "editor" },
          { id := some "r3", name := some "reader" }] }
    let after := (request.fulfil.run directory store).state
    ∃ report report', (request.fulfil.run directory store).result = .ok report ∧
      report.changes = [⟨"r2", "editor"⟩, ⟨"r3", "reader"⟩] ∧
      (request.fulfil.run directory after).result = .ok report' ∧ report'.changes = [] ∧
      report'.endState = report.endState := by
  intro realm store request after
  have hchanges : (request.fulfil.run directory store).result.toOption.map Report.changes =
      some [⟨"r2", "editor"⟩, ⟨"r3", "reader"⟩] := by decide +kernel
  have hlists : (store.realms.get request.realm).Lists request := by
    intro scope hscope role hrole
    have hscope : some "c1" = scope := Option.some.inj hscope
    have hrole : role = ⟨"r3", "reader"⟩ := by
      have hreferences : request.references =
          [.byName "editor", .byId "r1", .byName "editor", .known ⟨"r3", "reader"⟩] := rfl
      rw [hreferences] at hrole
      simpa using hrole
    rw [hrole, ← hscope]
    decide +kernel
  have hnames : (store.realms.get request.realm).NamesApart request := by
    intro scope hscope
    have hscope : some "c1" = scope := Option.some.inj hscope
    rw [← hscope]
    decide +kernel
  cases hresult : (request.fulfil.run directory store).result with
  | error problem =>
    rw [hresult] at hchanges
    cases hchanges
  | ok report =>
    rw [hresult] at hchanges
    obtain ⟨report', hok', -, hnone, -, -, hend⟩ :=
      present_repeated store request report rfl rfl hlists hnames hresult
    exact ⟨report, report', rfl, Option.some.inj hchanges, hok', hnone, hend⟩

end Store

end GroupRoles.Memory
