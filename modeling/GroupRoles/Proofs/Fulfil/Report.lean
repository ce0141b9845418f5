import GroupRoles.Proofs.Fulfil.Abort

/-!
# What a report tells of its run

A report is made from the plan of its run and from what became of the changes, so it tells which
way the run went, whatever directory it was on.
-/

namespace GroupRoles.Request

open Program

/-- A run whose report has no changes made none, and found the end state that it reports. -/
theorem unchanged_of_changes_eq_nil {σ : Type} {request : Request} {d : Directory σ} {s : σ}
    {report : Report} (hok : (request.fulfil.run d s).result = .ok report)
    (hnone : report.changes = []) :
    report.changed = false ∧ report.existing = report.endState ∧
      ∀ call ∈ (request.fulfil.run d s).calls, call.isChange = false := by
  have htrace := trace_run d request.fulfil s
  rw [hok] at htrace
  have hreads : ∀ {events : List Event} {found : Except Problem (Option Plan)},
      Trace request.prepare events found →
        ∀ call ∈ events.map Event.call, call.isChange = false := by
    intro events found hprepare call hcall
    obtain ⟨e, he, rfl⟩ := List.mem_map.mp hcall
    exact (readOnly_prepare request).of_mem hprepare e he
  rcases trace_fulfil htrace with ⟨problem, -, hfail⟩ | ⟨hprepare, hdone⟩ |
    ⟨plan, before, rest, effect, hprepare, hcourse, hevents, hreport⟩
  · cases hfail
  · cases hdone
    exact ⟨rfl, rfl, hreads hprepare⟩
  -- without changes there is one way to go on from the plan
  cases hcourse with
  | nothing hno =>
    cases hreport
    refine ⟨rfl, rfl, ?_⟩
    rw [Outcome.calls, hevents, List.append_nil]
    exact hreads hprepare
  | previewed hsome hdry =>
    cases hreport
    exact absurd hnone hsome
  | refused hsome hlive failure => cases hreport
  | unread hsome hlive failure => cases hreport
  | applied hsome hlive endState =>
    cases hreport
    exact absurd hnone hsome

end GroupRoles.Request
