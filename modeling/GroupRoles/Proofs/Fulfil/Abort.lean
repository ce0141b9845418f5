import GroupRoles.Directory.Script
import GroupRoles.Proofs.Fulfil.Course
import GroupRoles.Proofs.Fulfil.Plan

/-!
# What a failed run leaves behind

A run changes the directory by one call at most, and only one call comes after it: the assigned
roles are read again. So a run that fails has changed nothing, unless that last reading is what
failed.
-/

namespace GroupRoles

open Program

/-- Whether a call changed mappings: it asked for that and was answered. -/
def Event.changed : Event → Bool
  | ⟨.change .., .ok _⟩ => true
  | _ => false

theorem Event.changed_eq_false {e : Event} (h : e.call.isChange = false) : e.changed = false := by
  obtain ⟨call, reply⟩ := e
  cases call with
  | change realm goal group scope roles => cases h
  | _ => rfl

namespace Request

/-- The events of a run are those of its preparation, and then those of the changes if there is
a plan to make them. -/
theorem trace_fulfil {request : Request} {events : List Event} {result : Except Problem Report}
    (h : Trace request.fulfil events result) :
    (∃ problem, Trace request.prepare events (.error problem) ∧ result = .error problem) ∨
      (Trace request.prepare events (.ok none) ∧ result = .ok .nothingSpecified) ∨
      ∃ plan before rest effect, Trace request.prepare before (.ok (some plan)) ∧
        request.goal.Course request.realm plan.group.id plan.scope (plan.changes request.goal)
          request.dryRun rest effect ∧
        events = before ++ rest ∧ result = effect.map (request.report plan) := by
  rw [fulfil_eq] at h
  rcases h.of_bind with hfail | ⟨plan, before, rest, hprepare, hfinish, he⟩
  · exact .inl hfail
  cases plan with
  | none =>
    obtain ⟨rfl, rfl⟩ := hfinish.of_done
    rw [List.append_nil] at he
    exact .inr (.inl ⟨he ▸ hprepare, rfl⟩)
  | some plan =>
    obtain ⟨effect, happly, rfl⟩ := Trace.of_map hfinish
    exact .inr (.inr ⟨plan, before, rest, effect, hprepare, Goal.course_of_trace happly, he, rfl⟩)

theorem changed_prepare {request : Request} {events : List Event}
    {result : Except Problem (Option Plan)} (h : Trace request.prepare events result) :
    ∀ e ∈ events, e.changed = false := fun e he =>
  Event.changed_eq_false ((readOnly_prepare request).of_mem h e he)

/-- When a failed run has changed the directory: exactly when the change was its last call but
one, everything before it only read, and the reading after it failed. -/
theorem failed_changed_iff {σ : Type} (request : Request) (d : Directory σ) (s : σ) :
    let run := request.fulfil.run d s
    (run.result.isOk = false ∧ ∃ e ∈ run.events, e.changed = true) ↔
      ∃ before group scope roles failure, (∀ e ∈ before, e.call.isChange = false) ∧
        run.events = before ++
          [⟨.change request.realm request.goal group scope roles, .ok ()⟩,
            ⟨.assigned request.realm group scope, .error failure⟩] ∧
        run.result = .error (.directory failure) := by
  intro run
  constructor
  · rintro ⟨hfail, e, he, hchanged⟩
    rcases trace_fulfil (trace_run d request.fulfil s) with ⟨problem, hprepare, -⟩ |
      ⟨hprepare, -⟩ | ⟨plan, before, rest, effect, hprepare, hcourse, hevents, hresult⟩
    · exact absurd hchanged (by simp [changed_prepare hprepare e he])
    · exact absurd hchanged (by simp [changed_prepare hprepare e he])
    -- preparing only reads, so the change is among the events after it
    have hrest : e ∈ rest := by
      rcases List.mem_append.mp (hevents ▸ he) with he | he
      · exact absurd hchanged (by simp [changed_prepare hprepare e he])
      · exact he
    have hresult : run.result = effect.map (request.report plan) := hresult
    rw [hresult] at hfail
    cases hcourse with
    | nothing hnone => cases hfail
    | previewed hsome hdry => cases hfail
    | applied hsome hlive endState => cases hfail
    | refused hsome hlive failure =>
      rw [List.mem_singleton.mp hrest] at hchanged
      cases hchanged
    | unread hsome hlive failure =>
      exact ⟨before, plan.group.id, plan.scope, plan.changes request.goal, failure,
        (readOnly_prepare request).of_mem hprepare, hevents, hresult⟩
  · rintro ⟨before, group, scope, roles, failure, -, hevents, hresult⟩
    have hmem : (⟨.change request.realm request.goal group scope roles, .ok ()⟩ : Event) ∈
        run.events := by
      rw [hevents]
      exact List.mem_append_right _ List.mem_cons_self
    exact ⟨by rw [hresult]; rfl, _, hmem, rfl⟩

/-- It is not so that every failed run has changed nothing: here the assigned roles cannot be
read again after the change. -/
theorem exists_failed_changed :
    ¬ ∀ (request : Request) (script : Script),
      (request.fulfil.run Script.directory script).result.isOk = false →
        ∀ e ∈ (request.fulfil.run Script.directory script).events, e.changed = false := by
  intro h
  have hrun := h
    { group := { id := some "g1" }, roles := some [{ name := some "reader" }] }
    { named := { realm := [.ok (some ⟨"r1", "reader"⟩)] },
      available := { realm := [.ok [⟨"r1", "reader"⟩]] },
      assigned := { realm := [.ok [], .error { cause := .other "timeout" }] } }
  revert hrun
  decide +kernel

end Request

end GroupRoles
