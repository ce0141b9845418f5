import GroupRoles.Proofs.Memory.Ending

/-!
# What a run leaves alone

However a run ends, groups, clients and catalogs stay as they are, and no roles are mapped or
unmapped but those of the request's own group in its own scope. Unless a live run reports a change,
nothing is different at all (`run_leaves`).
-/

namespace GroupRoles.Memory

namespace Store

/-- What a run leaves of a store, however it ends. The same realms exist, with the same groups,
clients and catalogs. The roles mapped to a group in a scope are the same as well, unless these are
the group and the scope that the request means in its realm. And all realms are as they were, unless
the run was live and reports a change. -/
theorem run_leaves (store : Store) (request : Request) :
    let run := request.fulfil.run directory store
    let before := store.realms
    let after := run.state.realms
    (∀ name, after.has name = before.has name ∧
      (after.get name).groups = (before.get name).groups ∧
      (after.get name).clients = (before.get name).clients ∧
      (after.get name).catalogs = (before.get name).catalogs) ∧
    (∀ name group scope,
      (after.get name).direct group scope = (before.get name).direct group scope ∨
        name = request.realm ∧
          ((before.get name).group? request.group).map GroupTarget.id = some group ∧
          (before.get name).scope? request = some scope) ∧
    (after = before ∨
      request.dryRun = false ∧ ∃ report, run.result = .ok report ∧ report.changed = true) := by
  intro run before after
  have hending : Ending request before run.result after := ending_of_run store request
  generalize run.result = result at hending ⊢
  generalize after = after at hending ⊢
  cases hending with
  | @applied plan hplan hroles hsome hlive hknows hrealm =>
    refine ⟨fun name => ⟨?_, get_make (batch request plan) before name⟩, fun name group scope => ?_,
      .inr ⟨hlive, _, rfl, rfl⟩⟩
    · exact has_make (b := batch request plan) hrealm name
    · by_cases hsite : (batch request plan).site = (name, group, scope)
      · -- the batch is for the group and the scope of the plan
        obtain ⟨hgroup, hscope, -⟩ := Realm.plan?_eq_some.mp hplan.plan?_eq
        cases hsite
        refine .inr ⟨rfl, ?_, hscope⟩
        show ((before.get request.realm).group? request.group).map GroupTarget.id = _
        rw [hgroup]
        rfl
      · exact .inl (direct_make_of_ne hsite)
  | _ =>
    -- no other ending has made a batch
    exact ⟨fun _ => ⟨rfl, rfl, rfl, rfl⟩, fun _ _ _ => .inl rfl, .inl rfl⟩

end Store

end GroupRoles.Memory
