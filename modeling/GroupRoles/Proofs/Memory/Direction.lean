import GroupRoles.Proofs.Memory.Ending

/-!
# Roles move towards the goal

More mapped roles reach more roles of the catalog, and what a group has is listed in the order of
the catalog. So a run that assigns roles leaves the group with all that it had, in order, and a run
that removes roles leaves it with nothing that it had not (`roles_move_to_goal`), whatever roles
include each other and however often an id or a name occurs.
-/

namespace GroupRoles.Memory.Store

/-- A run with a report, live or dry: where roles are to be assigned, the end state has the roles
that there were, in their order, and where they are to be removed, it has no others. What the report
tells of a request that names roles are the roles of the group in the store before the run and in
the store after it. -/
theorem roles_move_to_goal (store : Store) (request : Request) (report : Report)
    (hok : (request.fulfil.run directory store).result = .ok report) :
    (request.goal = .present → report.existing.Sublist report.endState) ∧
      (request.goal = .absent → report.endState.Sublist report.existing) ∧
      (request.roles.isSome = true →
        ∃ plan, (store.realms.get request.realm).plan? request = some plan ∧
          report.existing =
            (store.realms.get request.realm).effective plan.group.id plan.scope ∧
          report.endState = ((request.fulfil.run directory store).state.realms.get
            request.realm).effective plan.group.id plan.scope) := by
  have hending := ending_of_run store request
  rw [hok] at hending
  generalize (request.fulfil.run directory store).state.realms = after at hending ⊢
  have hexisting : ∀ {plan : Plan}, Planned request store.realms plan → plan.survey.assigned =
      (store.realms.get request.realm).effective plan.group.id plan.scope := by
    intro plan hplan
    rw [hplan.survey_eq]
    rfl
  cases hending with
  | unspecified hplan hroles =>
    refine ⟨fun _ => .refl _, fun _ => .refl _, fun hsome => ?_⟩
    rw [hroles] at hsome
    cases hsome
  | idle hplan hroles hnone =>
    exact ⟨fun _ => .refl _, fun _ => .refl _, fun _ =>
      ⟨_, hplan.plan?_eq, hexisting hplan, hexisting hplan⟩⟩
  | previewed hplan hroles hsome hdry =>
    exact ⟨fun _ => .refl _, fun _ => .refl _, fun _ =>
      ⟨_, hplan.plan?_eq, hexisting hplan, hexisting hplan⟩⟩
  | @applied plan hplan hroles hsome hlive hknows hrealm =>
    have hshifted := shifted_make (batch request plan) store.realms
    refine ⟨fun hgoal => ?_, fun hgoal => ?_, fun _ =>
      ⟨plan, hplan.plan?_eq, hexisting hplan, rfl⟩⟩
    · show plan.survey.assigned.Sublist _
      rw [hexisting hplan]
      have hgoal' : (batch request plan).goal = .present := hgoal
      rw [hgoal'] at hshifted
      exact hshifted.effective_sublist_of_present
    · show List.Sublist _ plan.survey.assigned
      rw [hexisting hplan]
      have hgoal' : (batch request plan).goal = .absent := hgoal
      rw [hgoal'] at hshifted
      exact hshifted.effective_sublist_of_absent

/-- Two roles that include each other are assigned by one of them, between two that the group has,
one of them under an id that occurs twice. -/
theorem roles_move_to_goal_cycle :
    let realm : Realm :=
      { catalogs := ⟨[(none, [⟨⟨"r1", "reader"⟩, []⟩, ⟨⟨"r2", "editor"⟩, ["r3"]⟩,
          ⟨⟨"r1", "viewer"⟩, []⟩, ⟨⟨"r3", "writer"⟩, ["r2"]⟩])]⟩
        mappings := ⟨[(("g1", none), ["r1"])]⟩ }
    let store : Store := { realms := ⟨[("master", realm)]⟩ }
    let request : Request :=
      { group := { id := some "g1" }, roles := some [{ name := some "writer" }] }
    ∃ report, (request.fulfil.run directory store).result = .ok report ∧
      report.existing = [⟨"r1", "reader"⟩, ⟨"r1", "viewer"⟩] ∧
      report.endState =
        [⟨"r1", "reader"⟩, ⟨"r2", "editor"⟩, ⟨"r1", "viewer"⟩, ⟨"r3", "writer"⟩] ∧
      report.existing.Sublist report.endState := by
  intro realm store request
  have hlists : (request.fulfil.run directory store).result.toOption.map
      (fun report => (report.existing, report.endState)) =
      some ([⟨"r1", "reader"⟩, ⟨"r1", "viewer"⟩],
        [⟨"r1", "reader"⟩, ⟨"r2", "editor"⟩, ⟨"r1", "viewer"⟩, ⟨"r3", "writer"⟩]) := by
    decide +kernel
  cases hresult : (request.fulfil.run directory store).result with
  | error problem =>
    rw [hresult] at hlists
    cases hlists
  | ok report =>
    rw [hresult] at hlists
    have hlists := Prod.mk.inj (Option.some.inj hlists)
    obtain ⟨hsublist, -, -⟩ := roles_move_to_goal store request report hresult
    exact ⟨report, rfl, hlists.1, hlists.2, hsublist rfl⟩

end GroupRoles.Memory.Store
