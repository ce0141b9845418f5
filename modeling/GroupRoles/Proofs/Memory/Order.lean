import GroupRoles.Proofs.Fulfil.Refusal
import GroupRoles.Proofs.Memory.Outcome
import Mathlib.Data.List.Nodup
import Mathlib.Data.List.Perm.Basic

/-!
# The order of role entries does not matter

Each stage of a run looks at its roles in their order: lookups, the first role of each name, the
batch, and the roles that the mapped ones include. `Plan.Matches` relates the plans of two requests
with the same role entries in whatever order and number, and each stage is shown to keep what
matters: which roles are desired, which are changed, and which ids are mapped. `run_entries_congr`
puts this together for two runs from one store.
-/

namespace GroupRoles

/-- Two plans for one group and scope, with the same survey and the same desired roles in whatever
order and number, which names tell apart. -/
structure Plan.Matches (plan plan' : Plan) : Prop where
  group : plan'.group = plan.group
  scope : plan'.scope = plan.scope
  survey : plan'.survey = plan.survey
  desired : ∀ role, role ∈ plan'.desired ↔ role ∈ plan.desired
  apart : ∀ a ∈ plan.desired, ∀ b ∈ plan.desired, a.name = b.name → a = b

namespace Plan.Matches

variable {plan plan' : Plan} {goal : Goal}

/-- The changes of plans that match are the same in another order. -/
theorem changes_perm (h : plan.Matches plan') (goal : Goal) :
    (plan.changes goal).Perm (plan'.changes goal) := by
  have hapart : ∀ a ∈ plan'.desired, ∀ b ∈ plan'.desired, a.name = b.name → a = b :=
    fun a ha b hb => h.apart a ((h.desired a).mp ha) b ((h.desired b).mp hb)
  have hnodup : (plan.changes goal).Nodup := .of_map _ Goal.nodup_changes
  have hnodup' : (plan'.changes goal).Nodup := .of_map _ Goal.nodup_changes
  rw [List.perm_ext_iff_of_nodup hnodup hnodup']
  intro role
  unfold changes
  rw [Goal.mem_changes_of_apart h.apart, Goal.mem_changes_of_apart hapart, h.desired, h.survey]

theorem isEmpty_changes (h : plan.Matches plan') :
    (plan'.changes goal).isEmpty = (plan.changes goal).isEmpty :=
  (h.changes_perm goal).isEmpty_eq.symm

end Plan.Matches

namespace Memory

variable {realm : Realm} {request : Request} {entries entries' : List RoleEntry}
  {before after after' : Table String Realm} {plan plan' : Plan}

/-- References of a request that stand for roles of one name stand for roles of one id. -/
def Realm.ResolvesApart (realm : Realm) (request : Request) : Prop :=
  ∀ group ∈ realm.group? request.group, ∀ scope ∈ realm.scope? request,
    ∀ key ∈ request.references, ∀ role ∈ realm.resolve? group.id scope key,
      ∀ key' ∈ request.references, ∀ role' ∈ realm.resolve? group.id scope key',
        role.name = role'.name → role.id = role'.id

/-- References to roles of the scope are apart where names tell these roles apart. -/
theorem Realm.ResolvesApart.of_namesApart (hlists : realm.Lists request)
    (hnames : realm.NamesApart request) : realm.ResolvesApart request := by
  intro group _ scope hscope key hkey role hrole key' hkey' role' hrole' hname
  have hlisted : role ∈ realm.roles scope :=
    resolve?_mem_roles (fun known he => hlists scope hscope known (he ▸ hkey)) hrole
  have hlisted' : role' ∈ realm.roles scope :=
    resolve?_mem_roles (fun known he => hlists scope hscope known (he ▸ hkey')) hrole'
  have hsame : role = role' := List.inj_on_of_nodup_map (hnames scope hscope) hlisted hlisted' hname
  exact congrArg Role.id hsame

/-! ## Plans -/

/-- Requests with the same role entries have the same references. -/
theorem mem_references_congr (hsame : ∀ entry, entry ∈ entries ↔ entry ∈ entries')
    (key : RoleKey) :
    key ∈ Request.references { request with roles := some entries } ↔
      key ∈ Request.references { request with roles := some entries' } := by
  unfold Request.references
  dsimp only [Option.getD_some]
  rw [List.mem_filterMap, List.mem_filterMap]
  exact exists_congr fun entry => and_congr_left fun _ => hsame entry

theorem Realm.ResolvesApart.congr (hsame : ∀ entry, entry ∈ entries ↔ entry ∈ entries')
    (h : realm.ResolvesApart { request with roles := some entries }) :
    realm.ResolvesApart { request with roles := some entries' } := by
  intro group hgroup scope hscope key hkey role hrole key' hkey' role' hrole' hname
  have hmem := (mem_references_congr hsame key).mpr hkey
  have hmem' := (mem_references_congr hsame key').mpr hkey'
  exact h group hgroup scope hscope key hmem role hrole key' hmem' role' hrole' hname

/-- If a request has a plan, so has a request with the same role entries, and the plans match. -/
theorem Planned.exists_matches
    (hsame : ∀ entry, entry ∈ entries ↔ entry ∈ entries')
    (hapart : (before.get request.realm).ResolvesApart { request with roles := some entries })
    (h : Planned { request with roles := some entries } before plan) :
    ∃ plan', Planned { request with roles := some entries' } before plan' ∧
      plan.Matches plan' := by
  obtain ⟨hgroup, hscope, hkeys, hdesired, hsurvey⟩ := Realm.plan?_eq_some.mp h.plan?_eq
  have hresolve : ∀ key ∈ Request.references { request with roles := some entries' },
      ∃ role, (before.get request.realm).resolve? plan.group.id plan.scope key = some role := by
    intro key hkey
    obtain ⟨role, -, he⟩ := Realm.exists_of_mapM_of_mem hdesired
      ((mem_references_congr hsame key).mpr hkey)
    exact ⟨role, he⟩
  obtain ⟨desired', hdesired'⟩ := Realm.exists_mapM hresolve
  have hsound := (Request.isOk_checkReferences_congr request hsame).symm.trans h.sound
  refine ⟨⟨plan.group, plan.scope, Request.references { request with roles := some entries' },
    desired', plan.survey⟩, ⟨hsound, ?_⟩, rfl, rfl, rfl, fun role => ?_, ?_⟩
  · exact Realm.plan?_eq_some.mpr ⟨hgroup, hscope, rfl, hdesired', hsurvey⟩
  · exact ⟨Realm.mem_of_mapM_of_subset
        (fun key => (mem_references_congr hsame key).mpr) hdesired' hdesired,
      Realm.mem_of_mapM_of_subset
        (fun key => (mem_references_congr hsame key).mp) hdesired hdesired'⟩
  · intro a ha b hb hname
    obtain ⟨key, hkey, hka⟩ := Realm.exists_of_mem_mapM hdesired ha
    obtain ⟨key', hkey', hkb⟩ := Realm.exists_of_mem_mapM hdesired hb
    have hid : a.id = b.id :=
      hapart plan.group hgroup plan.scope hscope key hkey a hka key' hkey' b hkb hname
    obtain ⟨id, name⟩ := a
    cases hname
    cases hid
    rfl

/-! ## Runs -/

/-- A run leaves the catalogs of its realm alone. -/
theorem Completed.catalog {report : Report} (h : Completed request plan report before after)
    (scope : Scope) :
    (after.get request.realm).catalog scope = (before.get request.realm).catalog scope := by
  rw [h.after_eq]
  split
  · rfl
  · exact (shifted_make (batch request plan) before).catalog scope

section

variable {request' : Request} {report report' : Report}

/-- Runs of plans that match leave the same ids mapped. -/
theorem Completed.mem_direct_congr (h : Completed request plan report before after)
    (h' : Completed request' plan' report' before after') (hmatches : plan.Matches plan')
    (hrealm : request'.realm = request.realm) (hgoal : request'.goal = request.goal)
    (hdry : request'.dryRun = request.dryRun) {name group id : String} {scope : Scope} :
    id ∈ (after'.get name).direct group scope ↔ id ∈ (after.get name).direct group scope := by
  rw [h'.after_eq, h.after_eq, hgoal, hdry, hmatches.isEmpty_changes]
  split
  · rfl
  · refine mem_direct_make_congr ?_ hgoal fun id => ?_
    · simp only [Batch.site, batch, hrealm, hmatches.group, hmatches.scope]
    · simp only [Batch.ids, batch, hgoal]
      exact ((hmatches.changes_perm request.goal).map Role.id).mem_iff.symm

/-- Runs of plans that match have reports that tell the same, with the changes in another order. -/
theorem Completed.report_congr (h : Completed request plan report before after)
    (h' : Completed request' plan' report' before after') (hmatches : plan.Matches plan')
    (hrealm : request'.realm = request.realm) (hgoal : request'.goal = request.goal)
    (hdry : request'.dryRun = request.dryRun) (hroles : request.roles.isSome = true)
    (hroles' : request'.roles.isSome = true) :
    report.changed = report'.changed ∧ report.existing = report'.existing ∧
      report.endState = report'.endState ∧ report.changes.Perm report'.changes := by
  refine ⟨?_, ?_, ?_, ?_⟩
  · rw [h.changed_eq, h'.changed_eq, hgoal, hmatches.isEmpty_changes]
  · rw [h.existing_eq hroles, h'.existing_eq hroles', hmatches.survey]
  · have hcatalog := h'.catalog plan.scope
    rw [hrealm] at hcatalog
    rw [h.endState_eq, h'.endState_eq, if_pos hroles, if_pos hroles', hmatches.group,
      hmatches.scope, hrealm]
    refine (Realm.effective_congr_of_mem (hcatalog.trans (h.catalog plan.scope).symm) ?_).symm
    exact fun id => h.mem_direct_congr h' hmatches hrealm hgoal hdry
  · rw [h.changes_eq, h'.changes_eq, hgoal]
    exact hmatches.changes_perm request.goal

end

/-- Two runs that fail and change nothing agree on all that a report would tell. -/
theorem run_congr_of_failed {result result' : Except Problem Report}
    (hfail : result.isOk = false) (hfail' : result'.isOk = false) (hafter : after = before)
    (hafter' : after' = before) :
    result.isOk = result'.isOk ∧
      (∀ report report', result = .ok report → result' = .ok report' →
        report.changed = report'.changed ∧ report.existing = report'.existing ∧
          report.endState = report'.endState ∧ report.changes.Perm report'.changes) ∧
      ∀ name group scope id, id ∈ (after.get name).direct group scope ↔
        id ∈ (after'.get name).direct group scope := by
  refine ⟨hfail.trans hfail'.symm, fun report _ hok _ => ?_, fun name group scope id => ?_⟩
  · rw [hok] at hfail
    cases hfail
  · rw [hafter, hafter']

namespace Store

/-- Two runs from one store of requests that are the same but for the order of their role entries
and how often each is given, where entries that stand for roles of one name stand for one id. Both
have a report, or neither has. The reports tell the same roles before and after, and the same
changes in some order; and after both runs the same ids are mapped, for every group and scope. -/
theorem run_entries_congr (store : Store) (request : Request) (entries entries' : List RoleEntry)
    (hsame : ∀ entry, entry ∈ entries ↔ entry ∈ entries')
    (hapart : (store.realms.get request.realm).ResolvesApart
      { request with roles := some entries }) :
    let run := ({ request with roles := some entries } : Request).fulfil.run directory store
    let run' := ({ request with roles := some entries' } : Request).fulfil.run directory store
    run.result.isOk = run'.result.isOk ∧
      (∀ report report', run.result = .ok report → run'.result = .ok report' →
        report.changed = report'.changed ∧ report.existing = report'.existing ∧
          report.endState = report'.endState ∧ report.changes.Perm report'.changes) ∧
      ∀ name group scope id, id ∈ (run.state.realms.get name).direct group scope ↔
        id ∈ (run'.state.realms.get name).direct group scope := by
  intro run run'
  have hending : Ending _ store.realms run.result run.state.realms := ending_of_run store _
  have hending' : Ending _ store.realms run'.result run'.state.realms := ending_of_run store _
  by_cases hplanned : ∃ plan, Planned { request with roles := some entries } store.realms plan
  · obtain ⟨plan, hplan⟩ := hplanned
    obtain ⟨plan', hplan', hmatches⟩ := hplan.exists_matches hsame hapart
    -- the catalog knows the ids of the changes in whatever order they come
    have hfeasible : Feasible { request with roles := some entries' } plan' store.realms ↔
        Feasible { request with roles := some entries } plan store.realms := by
      unfold Feasible Realm.Knows
      rw [hmatches.scope]
      refine or_congr_right (forall_congr' fun role => imp_congr_left ?_)
      exact (hmatches.changes_perm request.goal).mem_iff.symm
    rcases hending.completed_or hplan with
      ⟨hsucceeds, report, hreport, hdone⟩ | ⟨hfails, hfail, hafter⟩
    · rcases hending'.completed_or hplan' with
        ⟨-, report', hreport', hdone'⟩ | ⟨hfails', -, -⟩
      · rw [hreport, hreport']
        refine ⟨rfl, fun other other' hother hother' => ?_, fun name group scope id => ?_⟩
        · cases hother
          cases hother'
          exact hdone.report_congr hdone' hmatches rfl rfl rfl rfl rfl
        · exact (hdone.mem_direct_congr hdone' hmatches rfl rfl rfl).symm
      · exact absurd (hfeasible.mpr hsucceeds) hfails'
    · rcases hending'.completed_or hplan' with ⟨hsucceeds', -⟩ | ⟨-, hfail', hafter'⟩
      · exact absurd (hfeasible.mp hsucceeds') hfails
      · exact run_congr_of_failed hfail hfail' hafter hafter'
  · -- what one request means, the other means too
    have hplanned' : ∀ plan,
        ¬ Planned { request with roles := some entries' } store.realms plan := by
      intro plan' hplan'
      obtain ⟨plan, hplan, -⟩ :=
        hplan'.exists_matches (fun entry => (hsame entry).symm) (hapart.congr hsame)
      exact hplanned ⟨plan, hplan⟩
    obtain ⟨hfail, hafter⟩ := hending.of_unplanned fun plan hplan => hplanned ⟨plan, hplan⟩
    obtain ⟨hfail', hafter'⟩ := hending'.of_unplanned hplanned'
    exact run_congr_of_failed hfail hfail' hafter hafter'

/-- Two roles that include each other are assigned to a group with a third one, in one order and in
the other with one of them twice. -/
theorem run_entries_congr_swapped :
    let realm : Realm :=
      { groups := [⟨"g1", "staff"⟩]
        catalogs := ⟨[(none, [⟨⟨"r1", "reader"⟩, ["r2"]⟩, ⟨⟨"r2", "writer"⟩, ["r1"]⟩,
          ⟨⟨"r3", "editor"⟩, []⟩])]⟩
        mappings := ⟨[(("g1", none), ["r3"])]⟩ }
    let store : Store := { realms := ⟨[("master", realm)]⟩ }
    let request : Request := { group := { name := some "staff" } }
    let entries : List RoleEntry :=
      [{ name := some "reader" }, { id := some "r2", name := some "writer" }]
    let entries' : List RoleEntry :=
      [{ id := some "r2", name := some "writer" }, { name := some "reader" },
        { id := some "r2", name := some "writer" }]
    let run := ({ request with roles := some entries } : Request).fulfil.run directory store
    let run' := ({ request with roles := some entries' } : Request).fulfil.run directory store
    ∃ report report', run.result = .ok report ∧ run'.result = .ok report' ∧
      report.changes = [⟨"r1", "reader"⟩, ⟨"r2", "writer"⟩] ∧
      report.changes.Perm report'.changes ∧ report.endState = report'.endState := by
  intro realm store request entries entries' run run'
  have hchanges : run.result.toOption.map Report.changes =
      some [⟨"r1", "reader"⟩, ⟨"r2", "writer"⟩] := by decide +kernel
  have hsame : ∀ entry, entry ∈ entries ↔ entry ∈ entries' := by
    intro entry
    simp only [entries, entries', List.mem_cons, List.not_mem_nil, or_false]
    exact ⟨fun h => h.elim (fun h => .inr (.inl h)) .inl,
      fun h => h.elim .inr fun h => h.elim .inl .inr⟩
  have hscope : ∀ scope,
      scope ∈ realm.scope? { request with roles := some entries } → none = scope :=
    fun scope hscope => Option.some.inj hscope
  have hlists : realm.Lists { request with roles := some entries } := by
    intro scope hmem role hrole
    have hreferences : Request.references { request with roles := some entries } =
        [.byName "reader", .known ⟨"r2", "writer"⟩] := rfl
    rw [hreferences] at hrole
    have hrole : role = ⟨"r2", "writer"⟩ := by simpa using hrole
    rw [hrole, ← hscope scope hmem]
    decide +kernel
  have hnames : realm.NamesApart { request with roles := some entries } := by
    intro scope hmem
    rw [← hscope scope hmem]
    decide +kernel
  have hrealm : store.realms.get request.realm = realm := rfl
  obtain ⟨hok, hreports, -⟩ := run_entries_congr store request entries entries' hsame
    (hrealm ▸ .of_namesApart hlists hnames)
  cases hresult : run.result with
  | error problem =>
    rw [hresult] at hchanges
    cases hchanges
  | ok report =>
    rw [hresult] at hchanges
    have hok : run.result.isOk = run'.result.isOk := hok
    cases hresult' : run'.result with
    | error problem =>
      rw [hresult, hresult'] at hok
      cases hok
    | ok report' =>
      obtain ⟨-, -, hend, hperm⟩ := hreports report report' hresult hresult'
      exact ⟨report, report', rfl, rfl, Option.some.inj hchanges, hperm, hend⟩

end Store

end Memory

end GroupRoles
