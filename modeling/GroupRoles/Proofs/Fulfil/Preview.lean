import GroupRoles.Directory.Script
import GroupRoles.Proofs.Fulfil.Course
import GroupRoles.Proofs.Fulfil.Plan
import Mathlib.Data.List.TakeWhile

/-!
# Previews

A dry run prepares as a live run does, and reports the changes that the live run makes. On one
directory and from one state the two go the same way up to the changing call, which the dry run does
not make: `Outcome.Previews` says this of two outcomes, and `previews_fulfil` of the two runs of a
request.
-/

namespace GroupRoles

open Program

namespace Outcome

variable {σ : Type}

/-- The first outcome is the second one up to the changing call. -/
structure Previews (dry live : Outcome σ Report) : Prop where
  calls : dry.calls = live.calls.takeWhile fun call => !call.isChange
  reads : ∀ call ∈ dry.calls, call.isChange = false
  error_iff : ∀ problem, dry.result = .error problem ↔
    live.result = .error problem ∧ ∀ call ∈ live.calls, call.isChange = false
  report : ∀ shown report, dry.result = .ok shown → live.result = .ok report →
    shown.changed = report.changed ∧ shown.proposed = report.proposed ∧
      shown.existing = report.existing ∧ shown.changes = report.changes

/-- Outcomes that are the same and make no changing call. -/
theorem Previews.of_eq {dry live : Outcome σ Report} (hresult : dry.result = live.result)
    (hevents : dry.events = live.events) (hreads : ∀ e ∈ live.events, e.call.isChange = false) :
    dry.Previews live := by
  have hcalls : dry.calls = live.calls := congrArg (List.map Event.call) hevents
  have hreads : ∀ call ∈ live.calls, call.isChange = false := by
    intro call hcall
    obtain ⟨e, he, rfl⟩ := List.mem_map.mp hcall
    exact hreads e he
  refine ⟨?_, ?_, fun problem => ?_, fun shown report hshown hreport => ?_⟩
  · rw [hcalls, eq_comm, List.takeWhile_eq_self_iff]
    intro call hcall
    rw [hreads call hcall]
    rfl
  · rw [hcalls]
    exact hreads
  · rw [hresult]
    exact (and_iff_left hreads).symm
  · rw [hresult, hreport] at hshown
    obtain rfl := Except.ok.inj hshown
    exact ⟨rfl, rfl, rfl, rfl⟩

/-- A report without calls previews an outcome that starts with the changing call and, if it has a
report, tells of the same changes. -/
theorem Previews.of_change {dry live : Outcome σ Report} {shown : Report} {e : Event}
    {rest : List Event} (hdry : dry.events = []) (hshown : dry.result = .ok shown)
    (hlive : live.events = e :: rest) (hchange : e.call.isChange = true)
    (hreport : ∀ report, live.result = .ok report →
      shown.changed = report.changed ∧ shown.proposed = report.proposed ∧
        shown.existing = report.existing ∧ shown.changes = report.changes) :
    dry.Previews live := by
  have hcalls : dry.calls = [] := by rw [Outcome.calls, hdry, List.map_nil]
  have hfirst : live.calls = e.call :: rest.map Event.call := by
    rw [Outcome.calls, hlive, List.map_cons]
  refine ⟨?_, ?_, fun problem => ⟨fun hfail => ?_, fun ⟨_, hreads⟩ => ?_⟩, ?_⟩
  · rw [hcalls, hfirst, List.takeWhile_cons_of_neg (by simp [hchange])]
  · rw [hcalls]
    nofun
  · rw [hshown] at hfail
    cases hfail
  · rw [hfirst] at hreads
    rw [hreads e.call List.mem_cons_self] at hchange
    cases hchange
  · intro other report hother
    obtain rfl := Except.ok.inj (hshown.symm.trans hother)
    exact hreport report

/-- What only reads may come before both outcomes. -/
theorem Previews.after {dry live : Outcome σ Report} (h : dry.Previews live) {events : List Event}
    (hreads : ∀ e ∈ events, e.call.isChange = false) :
    (dry.after events).Previews (live.after events) := by
  have hcalls : ∀ o : Outcome σ Report, (o.after events).calls = events.map Event.call ++ o.calls :=
    fun o => List.map_append
  have hbefore : ∀ call ∈ events.map Event.call, call.isChange = false := by
    intro call hcall
    obtain ⟨e, he, rfl⟩ := List.mem_map.mp hcall
    exact hreads e he
  have hall : ∀ o : Outcome σ Report, (∀ call ∈ (o.after events).calls, call.isChange = false) ↔
      ∀ call ∈ o.calls, call.isChange = false := by
    intro o
    rw [hcalls, List.forall_mem_append]
    exact and_iff_right hbefore
  refine ⟨?_, (hall dry).mpr h.reads, fun problem => ?_, h.report⟩
  · rw [hcalls, hcalls, h.calls, List.takeWhile_append_of_pos]
    intro call hcall
    rw [hbefore call hcall]
    rfl
  · rw [hall]
    exact h.error_iff problem

end Outcome

namespace Request

variable {σ : Type}

/-- Finishing a plan dry makes no call. -/
theorem run_finish_dry (request : Request) (plan : Plan) (d : Directory σ) (s : σ) :
    (({ request with dryRun := true } : Request).finish (some plan)).run d s =
      ⟨.ok (request.report plan
        (if (plan.changes request.goal).isEmpty then .nothing else .previewed)), [], s⟩ := by
  simp only [finish, Goal.apply, if_true]
  split <;> rfl

/-- A dry run changes nothing, whatever the directory answers. -/
theorem readOnly_fulfil {request : Request} (h : request.dryRun = true) :
    request.fulfil.ReadOnly := by
  rw [fulfil_eq]
  refine (readOnly_prepare request).bind fun found => ?_
  cases found with
  | none => trivial
  | some plan =>
    simp only [finish, Goal.apply, h, if_true]
    split <;> trivial

/-- Finishing a plan dry previews finishing it live. -/
theorem previews_finish (request : Request) (found : Option Plan) (d : Directory σ) (s : σ) :
    ((({ request with dryRun := true } : Request).finish found).run d s).Previews
      ((({ request with dryRun := false } : Request).finish found).run d s) := by
  cases found with
  | none => exact .of_eq rfl rfl fun _ he => absurd he List.not_mem_nil
  | some plan =>
    rw [run_finish_dry]
    have htrace := trace_run d (({ request with dryRun := false } : Request).finish (some plan)) s
    generalize (({ request with dryRun := false } : Request).finish (some plan)).run d s = live
      at htrace ⊢
    obtain ⟨effect, happly, hresult⟩ := Trace.of_map htrace
    have hcourse := Goal.course_of_trace happly
    -- the changing call comes first, if there is one
    generalize hevents : live.events = events at hcourse
    cases hcourse with
    | nothing hnone =>
      rw [hnone]
      refine .of_eq hresult.symm hevents.symm ?_
      rw [hevents]
      exact fun _ he => absurd he List.not_mem_nil
    | previewed hsome hdry => cases hdry
    | refused hsome hlive failure =>
      refine .of_change rfl rfl hevents rfl fun report hreport => ?_
      rw [hresult] at hreport
      cases hreport
    | unread hsome hlive failure =>
      refine .of_change rfl rfl hevents rfl fun report hreport => ?_
      rw [hresult] at hreport
      cases hreport
    | applied hsome hlive endState =>
      refine .of_change rfl rfl hevents rfl fun report hreport => ?_
      rw [hresult] at hreport
      cases hreport
      rw [List.isEmpty_eq_false_iff.mpr hsome]
      exact ⟨rfl, rfl, rfl, rfl⟩

/-- The dry run of a request previews its live run. -/
theorem previews_fulfil (request : Request) (d : Directory σ) (s : σ) :
    (({ request with dryRun := true } : Request).fulfil.run d s).Previews
      (({ request with dryRun := false } : Request).fulfil.run d s) := by
  -- preparing does not look at the flag
  have hprepare : ∀ dryRun, ({ request with dryRun } : Request).prepare = request.prepare :=
    fun _ => rfl
  have hreads := (readOnly_prepare request).of_mem (trace_run d request.prepare s)
  rw [fulfil_eq, fulfil_eq, run_bind, run_bind, hprepare true, hprepare false]
  cases (request.prepare.run d s).result with
  | ok found => exact (previews_finish request found d _).after hreads
  | error problem => exact .of_eq rfl rfl hreads

/-- A dry run and a live run of a request, on any directory and from one state. The calls of the dry
run are those of the live run up to the changing call, and none of them changes anything. The dry
run fails exactly when the live run fails without having come to the changing call, and with the
same problem. When both have a report, they tell of the same changes. -/
theorem dryRun_agrees (request : Request) (d : Directory σ) (s : σ) :
    let dry := ({ request with dryRun := true } : Request).fulfil.run d s
    let live := ({ request with dryRun := false } : Request).fulfil.run d s
    dry.calls = (live.calls.takeWhile fun call => !call.isChange) ∧
      (∀ call ∈ dry.calls, call.isChange = false) ∧
      (∀ problem, dry.result = .error problem ↔
        live.result = .error problem ∧ ∀ call ∈ live.calls, call.isChange = false) ∧
      ∀ shown report, dry.result = .ok shown → live.result = .ok report →
        shown.changed = report.changed ∧ shown.proposed = report.proposed ∧
          shown.existing = report.existing ∧ shown.changes = report.changes := by
  intro dry live
  have h : dry.Previews live := previews_fulfil request d s
  exact ⟨h.calls, h.reads, h.error_iff, h.report⟩

/-- A preview of an assignment that a directory then makes. -/
theorem dryRun_agrees_assignment :
    let request : Request :=
      { group := { name := some "staff" }, roles := some [{ name := some "reader" }] }
    let script : Script :=
      { group := [.ok (some ⟨"g1", "staff"⟩)]
        named := { realm := [.ok (some ⟨"r1", "reader"⟩)] }
        available := { realm := [.ok [⟨"r1", "reader"⟩]] }
        assigned := { realm := [.ok [], .ok [⟨"r1", "reader"⟩]] } }
    let dry := ({ request with dryRun := true } : Request).fulfil.run Script.directory script
    let live := ({ request with dryRun := false } : Request).fulfil.run Script.directory script
    ∃ shown report, dry.result = .ok shown ∧ live.result = .ok report ∧
      report.changes = [⟨"r1", "reader"⟩] ∧ shown.changes = report.changes ∧
      live.calls.length = 6 ∧ (live.calls.takeWhile fun call => !call.isChange).length = 4 ∧
      dry.calls = live.calls.takeWhile fun call => !call.isChange := by
  intro request script dry live
  have hshown : dry.result.isOk = true := by decide +kernel
  have hchanges : live.result.toOption.map Report.changes = some [⟨"r1", "reader"⟩] := by
    decide +kernel
  have hlength : live.calls.length = 6 := by decide +kernel
  have hcut : (live.calls.takeWhile fun call => !call.isChange).length = 4 := by decide +kernel
  obtain ⟨hcalls, -, -, hreport⟩ := dryRun_agrees request Script.directory script
  cases hdry : dry.result with
  | error problem =>
    rw [hdry] at hshown
    cases hshown
  | ok shown =>
    cases hlive : live.result with
    | error problem =>
      rw [hlive] at hchanges
      cases hchanges
    | ok report =>
      rw [hlive] at hchanges
      obtain ⟨-, -, -, hsame⟩ := hreport shown report hdry hlive
      exact ⟨shown, report, rfl, rfl, Option.some.inj hchanges, hsame, hlength, hcut, hcalls⟩

end Request

end GroupRoles
