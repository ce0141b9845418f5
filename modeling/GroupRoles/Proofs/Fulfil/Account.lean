import GroupRoles.Proofs.Fulfil.Abort
import GroupRoles.Proofs.Fulfil.Changes
import GroupRoles.Proofs.Fulfil.Protocol
import GroupRoles.Proofs.Fulfil.Refusal

/-!
# A report accounts for its run

A report is one record of what was asked of a directory and what it answered: some of its lists are
copied from answers, one was sent, and one may be predicted. `Report.Accounts` ties each field to
the request and to the events of the run, and `report_accounts` says that the report of every run
that names roles is tied so, whatever the directory answered.
-/

namespace GroupRoles

open Program

/-! ## What the events tell of a plan -/

/-- The events of preparing tell what the plan is made of: where it goes, the desired roles, and
the assigned roles, which were listed last and only once. -/
structure Plan.ToldBy (plan : Plan) (request : Request) (events : List Event) : Prop where
  target : ∀ rest, (request.findings (events ++ rest)).group = plan.group.id ∧
    (request.findings (events ++ rest)).scope = plan.scope
  roles : request.roles = some (plan.keys.map RoleKey.entry)
  desired : RoleKey.settleAll (.realm request.realm) plan.keys (events.filterMap Event.lookup?) =
    .ok plan.desired
  assigned : ∃ reads, reads.findSome? Event.assigned? = none ∧ events = reads ++
    [⟨.assigned request.realm plan.group.id plan.scope, .ok plan.survey.assigned⟩]

namespace RoleEntry

/-- The reference that an entry stands for gives back the entry. -/
theorem entry_of_key? {entry : RoleEntry} {key : RoleKey} (h : entry.key? = some key) :
    key.entry = entry := by
  obtain ⟨id, name⟩ := entry
  cases id <;> cases name <;> cases h <;> rfl

/-- Entries none of which is empty are given back by their references. -/
theorem map_entry_filterMap_key? {entries : List RoleEntry}
    (h : ∀ entry ∈ entries, entry.key?.isNone = false) :
    (entries.filterMap key?).map RoleKey.entry = entries := by
  induction entries with
  | nil => rfl
  | cons entry rest ih =>
    have hfirst := h entry List.mem_cons_self
    have hrest := ih fun other hother => h other (List.mem_cons_of_mem entry hother)
    cases hkey : entry.key? with
    | none =>
      rw [hkey] at hfirst
      cases hfirst
    | some key => rw [List.filterMap_cons_some hkey, List.map_cons, entry_of_key? hkey, hrest]

end RoleEntry

namespace Request

variable {request : Request} {events : List Event}

/-- The references of a request that passes its check are its role entries. -/
theorem roles_eq_of_roleKeys {keys : Option (List RoleKey)} (h : request.roleKeys = .ok keys)
    {entries : List RoleEntry} (hroles : request.roles = some entries) :
    request.roles = some (request.references.map RoleKey.entry) := by
  rw [roleKeys_eq] at h
  split at h
  · cases h
  · next hnone =>
    rw [hroles, Option.getD_some] at hnone
    have hsound : ∀ entry ∈ entries, entry.key?.isNone = false := by
      intro entry hentry
      rw [RoleEntry.isNone_key?]
      exact List.findIdx?_eq_none_iff.mp hnone entry hentry
    rw [references, hroles, Option.getD_some, RoleEntry.map_entry_filterMap_key? hsound]

/-- The parts of preparing tell the plan that they lead to. -/
theorem told_of_parts {finding asking lookups : List Event} {group : GroupTarget}
    {client : Option ClientTarget} {replies : List (Except Failure (Option Role))}
    {desired available assigned : List Role}
    (hroles : request.roles = some (request.references.map RoleKey.entry))
    (hgroup : request.group.Course request.realm finding (.ok group))
    (hclient : ClientKey.Course request.realm request.client asking (.ok client))
    (hlen : replies.length =
      (request.references.filterMap (RoleKey.query? group.id (ClientTarget.scope client))).length)
    (hlookups : lookups = Directory.lookUpEvents request.realm
      (request.references.filterMap (RoleKey.query? group.id (ClientTarget.scope client))) replies)
    (hsettle : RoleKey.settleAll (.realm request.realm) request.references replies =
      .ok desired) :
    Plan.ToldBy ⟨group, ClientTarget.scope client, request.references, desired,
        ⟨available, assigned⟩⟩ request
      (finding ++ (asking ++ (lookups ++
        [⟨.available request.realm group.id (ClientTarget.scope client), .ok available⟩,
          ⟨.assigned request.realm group.id (ClientTarget.scope client), .ok assigned⟩]))) := by
  obtain ⟨hclient₁, hlookup₁, -, hassigned₁⟩ := group_readings hgroup
  obtain ⟨hlookup₂, -, hassigned₂⟩ := client_readings hclient
  obtain ⟨-, hassigned₃⟩ := lookups_readings hlookups
  refine ⟨fun rest => ⟨?_, ?_⟩, hroles, ?_, finding ++ (asking ++ (lookups ++
    [⟨.available request.realm group.id (ClientTarget.scope client), .ok available⟩])), ?_, ?_⟩
  · rw [List.append_assoc]
    exact findings_group _ hgroup
  · rw [List.append_assoc, List.append_assoc]
    exact findings_scope _ hclient₁ hclient
  · rw [List.filterMap_append, List.filterMap_append, List.filterMap_append, hlookup₁, hlookup₂,
      hlookups, Directory.filterMap_lookup_lookUpEvents hlen]
    -- listings are no lookups
    rw [← List.append_nil replies] at hsettle
    exact hsettle
  · simp only [List.findSome?_append, hassigned₁, hassigned₂, hassigned₃, Option.none_or]
    rfl
  · simp only [List.append_assoc]
    rfl

/-- Preparing that succeeds ends with a plan that its events tell, unless the request names no
roles. -/
theorem told_of_trace {found : Option Plan} (h : Trace request.prepare events (.ok found)) :
    (request.roles = none ∧ found = none) ∨
      ∃ plan, found = some plan ∧ plan.ToldBy request events := by
  unfold prepare at h
  cases hcheck : request.checkReferences with
  | error fault =>
    rw [hcheck] at h
    cases h
  | ok keys =>
    rw [hcheck] at h
    obtain ⟨hgroupCheck, hclientCheck, hkeys⟩ := checkReferences_eq_ok_iff.mp hcheck
    obtain rfl := roleKeys_eq_ok hkeys
    have h : Trace (request.prepareKeys (request.roles.map fun _ => request.references)) events
        (.ok found) := h
    -- the parts of preparing in a row, each with its own events
    obtain ⟨group, finding, rest₁, hfinding, hrest₁, rfl⟩ := Trace.of_bind_ok h
    obtain ⟨client, asking, rest₂, hasking, hrest₂, rfl⟩ := Trace.of_bind_ok hrest₁
    have hgroup := GroupKey.course_of_trace hgroupCheck hfinding
    have hclient := ClientKey.course_of_trace hclientCheck hasking
    cases hroles : request.roles with
    | none =>
      rw [hroles] at hrest₂
      obtain ⟨-, hfound⟩ := hrest₂.of_done
      exact .inl ⟨rfl, Except.ok.inj hfound⟩
    | some entries =>
      rw [hroles] at hrest₂
      obtain ⟨desired, lookups, rest₃, hfindAll, hrest₃, rfl⟩ := Trace.of_bind_ok hrest₂
      obtain ⟨survey, reading, rest₄, hreading, hrest₄, rfl⟩ := Trace.of_bind_ok hrest₃
      obtain ⟨replies, hlen, hlookups, hsettle⟩ := RoleKey.course_of_trace hfindAll
      obtain ⟨available, assigned⟩ := Survey.course_of_trace hreading
      obtain ⟨rfl, hfound⟩ := hrest₄.of_done
      have hdesired := RoleKey.settleAll_eq_ok (.realm request.realm) hsettle.symm
      rw [List.append_nil]
      exact .inr ⟨_, Except.ok.inj hfound,
        told_of_parts (roles_eq_of_roleKeys hkeys hroles) hgroup hclient hlen hlookups hdesired⟩

end Request

/-! ## The report -/

/-- How a report accounts for the events of a run. -/
structure Report.Accounts (report : Report) (request : Request) (events : List Event) : Prop where
  changed : report.changed = true ↔ report.changes ≠ []
  /-- The references give back the role entries. -/
  proposed : request.roles = some (report.proposed.map RoleKey.entry)
  /-- The changes are some of the roles that the replies settle, in their order. -/
  changes : ∃ desired,
    RoleKey.settleAll (.realm request.realm) report.proposed (events.filterMap Event.lookup?) =
      .ok desired ∧ report.changes.Sublist desired
  /-- The assigned roles were listed once before any change. That was the last call, or else the
  changes were made together and the assigned roles listed again. -/
  lists : ∃ reads rest,
    events = reads ++ ⟨.assigned request.realm (request.findings events).group
      (request.findings events).scope, .ok report.existing⟩ :: rest ∧
    (∀ e ∈ reads, e.call.isChange = false) ∧ reads.findSome? Event.assigned? = none ∧
    ((rest = [] ∧ (report.changes = [] ∨ request.dryRun = true) ∧
        report.endState = report.existing) ∨
      (rest = [⟨.change request.realm request.goal (request.findings events).group
          (request.findings events).scope report.changes, .ok ()⟩,
          ⟨.assigned request.realm (request.findings events).group
            (request.findings events).scope, .ok report.endState⟩] ∧
        report.changes ≠ [] ∧ request.dryRun = false))
  delta : report.delta.isSome = true ↔ request.wantDelta = true ∧ report.changed = true
  before : ∀ delta ∈ report.delta, delta.before = report.existing
  live : request.dryRun = false → ∀ delta ∈ report.delta, delta.after = report.endState
  /-- A dry run appends the changes of new names. -/
  present : request.dryRun = true → request.goal = .present → ∀ delta ∈ report.delta,
    delta.after = report.existing ++
      report.changes.filter fun role => role.name ∉ report.existing.map Role.name
  /-- A dry run leaves out the names of the changes. -/
  absent : request.dryRun = true → request.goal = .absent → ∀ delta ∈ report.delta,
    delta.after = report.existing.filter fun role => role.name ∉ report.changes.map Role.name

/-- Changes of different names are predicted to be appended, unless their name is there. -/
theorem Goal.predict_present (existing : List Role) {changes : List Role}
    (hnames : (changes.map Role.name).Nodup) :
    Goal.present.predict existing changes =
      existing ++ changes.filter fun role => role.name ∉ existing.map Role.name := by
  rw [predict, Role.firstOfNames_eq_filter hnames]

/-- The names of changes are predicted to be left out. -/
theorem Goal.predict_absent (existing changes : List Role) :
    Goal.absent.predict existing changes =
      existing.filter fun role => role.name ∉ changes.map Role.name := by
  rw [predict]
  apply List.filter_congr
  intro role _
  rw [decide_not, Bool.not_inj_iff, Bool.eq_iff_iff, decide_eq_true_iff]
  exact Role.hasName_iff

namespace Request

variable {request : Request} {plan : Plan} {before rest : List Event} {effect : Effect}

/-- A delta is reported if it is wanted and there are roles after the run to tell of. -/
theorem mem_delta_report {delta : Delta} :
    delta ∈ (request.report plan effect).delta ↔
      request.wantDelta = true ∧ ∃ roles ∈ Report.after request.goal plan.survey.assigned
        (plan.changes request.goal) effect, ⟨plan.survey.assigned, roles⟩ = delta := by
  have hdelta : (request.report plan effect).delta =
      if request.wantDelta then (Report.after request.goal plan.survey.assigned
        (plan.changes request.goal) effect).map (⟨plan.survey.assigned, ·⟩) else none := rfl
  rw [hdelta]
  cases request.wantDelta with
  | false => exact iff_of_false (fun h => by cases h) (fun h => by cases h.1)
  | true =>
    rw [if_pos rfl, Option.mem_def, Option.map_eq_some_iff, and_iff_right rfl]
    rfl

/-- There are roles after the run to tell of when there were changes. -/
theorem isSome_delta_report :
    (request.report plan effect).delta.isSome = true ↔
      request.wantDelta = true ∧ effect.changed = true := by
  rw [Option.isSome_iff_exists]
  constructor
  · rintro ⟨delta, hdelta⟩
    obtain ⟨hwant, roles, hroles, -⟩ := mem_delta_report.mp hdelta
    cases effect with
    | nothing => cases hroles
    | previewed => exact ⟨hwant, rfl⟩
    | applied endState => exact ⟨hwant, rfl⟩
  · rintro ⟨hwant, hchanged⟩
    cases effect with
    | nothing => cases hchanged
    | previewed => exact ⟨_, mem_delta_report.mpr ⟨hwant, _, rfl, rfl⟩⟩
    | applied endState => exact ⟨_, mem_delta_report.mpr ⟨hwant, _, rfl, rfl⟩⟩

/-- A dry run has its prediction as the roles after it. -/
theorem after_eq_predict {delta : Delta}
    (hcourse : request.goal.Course request.realm plan.group.id plan.scope
      (plan.changes request.goal) request.dryRun rest (.ok effect))
    (hdry : request.dryRun = true) (hdelta : delta ∈ (request.report plan effect).delta) :
    delta.after = request.goal.predict plan.survey.assigned (plan.changes request.goal) := by
  obtain ⟨-, roles, hroles, rfl⟩ := mem_delta_report.mp hdelta
  cases hcourse with
  | nothing hnone => cases hroles
  | previewed hsome _ => exact (Option.some.inj hroles).symm
  | applied hsome hlive endState =>
    rw [hlive] at hdry
    cases hdry

/-- The report of a plan accounts for the events that told it and for those of its changes. -/
theorem report_accounts_of_course (htold : plan.ToldBy request before)
    (hreads : ∀ e ∈ before, e.call.isChange = false)
    (hcourse : request.goal.Course request.realm plan.group.id plan.scope
      (plan.changes request.goal) request.dryRun rest (.ok effect)) :
    (request.report plan effect).Accounts request (before ++ rest) := by
  obtain ⟨hgroup, hscope⟩ := htold.target rest
  obtain ⟨reads, hunlisted, hbefore⟩ := htold.assigned
  have hsettle : RoleKey.settleAll (.realm request.realm) plan.keys
      ((before ++ rest).filterMap Event.lookup?) = .ok plan.desired := by
    rw [List.filterMap_append, changes_readings hcourse, List.append_nil, htold.desired]
  have hevents : before ++ rest = reads ++
      ⟨.assigned request.realm plan.group.id plan.scope, .ok plan.survey.assigned⟩ :: rest := by
    rw [hbefore, List.append_assoc]
    rfl
  have hreads : ∀ e ∈ reads, e.call.isChange = false := fun e he =>
    hreads e (hbefore ▸ List.mem_append_left _ he)
  refine ⟨?_, htold.roles, ⟨plan.desired, hsettle, Goal.changes_sublist⟩,
    ⟨reads, rest, by rw [hgroup, hscope]; exact hevents, hreads, hunlisted, ?_⟩,
    isSome_delta_report, ?_, ?_, ?_, ?_⟩
  -- without changes nothing was made or previewed, and otherwise something was
  · cases hcourse with
    | nothing hnone => exact iff_of_false (fun h => by cases h) (fun hsome => hsome hnone)
    | previewed hsome hdry => exact iff_of_true rfl hsome
    | applied hsome hlive endState => exact iff_of_true rfl hsome
  · rw [hgroup, hscope]
    cases hcourse with
    | nothing hnone => exact .inl ⟨rfl, .inl hnone, rfl⟩
    | previewed hsome hdry => exact .inl ⟨rfl, .inr hdry, rfl⟩
    | applied hsome hlive endState => exact .inr ⟨rfl, hsome, hlive⟩
  · intro delta hdelta
    obtain ⟨-, roles, -, rfl⟩ := mem_delta_report.mp hdelta
    rfl
  · intro hlive delta hdelta
    obtain ⟨-, roles, hroles, rfl⟩ := mem_delta_report.mp hdelta
    cases hcourse with
    | nothing hnone => cases hroles
    | previewed hsome hdry =>
      rw [hlive] at hdry
      cases hdry
    | applied hsome _ endState => exact (Option.some.inj hroles).symm
  · intro hdry hgoal delta hdelta
    have hnames : ((plan.changes request.goal).map Role.name).Nodup := Goal.nodup_changes
    have hpredict := Goal.predict_present plan.survey.assigned hnames
    rw [← hgoal] at hpredict
    exact (after_eq_predict hcourse hdry hdelta).trans hpredict
  · intro hdry hgoal delta hdelta
    have hpredict := Goal.predict_absent plan.survey.assigned (plan.changes request.goal)
    rw [← hgoal] at hpredict
    exact (after_eq_predict hcourse hdry hdelta).trans hpredict

/-- What a report tells of its run, on any directory and whatever it answers. It has changes
exactly when it says that something changed; they are resolved roles of the request, in order, and
when a change was made they are what was sent. The roles before and after are listings that the
run was given, and the delta, which is there when it is wanted and something changed, is of
these two, or predicts the second by the names of the changes. -/
theorem report_accounts {σ : Type} (request : Request) (d : Directory σ) (s : σ)
    (hroles : request.roles.isSome = true) {report : Report}
    (hok : (request.fulfil.run d s).result = .ok report) :
    report.Accounts request (request.fulfil.run d s).events := by
  have htrace := trace_run d request.fulfil s
  rw [hok] at htrace
  rcases trace_fulfil htrace with ⟨problem, -, hfail⟩ | ⟨hprepare, -⟩ |
    ⟨plan, before, rest, effect, hprepare, hcourse, hevents, hreport⟩
  · cases hfail
  · rcases told_of_trace hprepare with ⟨hnone, -⟩ | ⟨plan, hplan, -⟩
    · rw [hnone] at hroles
      cases hroles
    · cases hplan
  · cases effect with
    | error problem => cases hreport
    | ok effect =>
      obtain rfl : report = request.report plan effect := Except.ok.inj hreport
      rcases told_of_trace hprepare with ⟨-, hnone⟩ | ⟨other, hplan, htold⟩
      · cases hnone
      · obtain rfl : plan = other := Option.some.inj hplan
        rw [hevents]
        exact report_accounts_of_course htold ((readOnly_prepare request).of_mem hprepare) hcourse

/-- A role is named twice and the group has another one: a dry run shows one change, and the delta
tells the listing that was read and that change after it. -/
theorem report_accounts_previewed :
    let request : Request :=
      { group := { name := some "staff" }
        roles := some [{ name := some "reader" }, { id := some "r2" }, { name := some "reader" }]
        dryRun := true
        wantDelta := true }
    let script : Script :=
      { group := [.ok (some ⟨"g1", "staff"⟩)]
        named := { realm := [.ok (some ⟨"r1", "reader"⟩), .ok (some ⟨"r1", "reader"⟩)] }
        mapped := { realm := [.ok (some ⟨"r2", "writer"⟩)] }
        available := { realm := [.ok [⟨"r1", "reader"⟩]] }
        assigned := { realm := [.ok [⟨"r2", "writer"⟩]] } }
    let run := request.fulfil.run Script.directory script
    ∃ report, run.result = .ok report ∧ report.Accounts request run.events ∧
      report.changed = true ∧ report.changes = [⟨"r1", "reader"⟩] ∧
      report.endState = [⟨"r2", "writer"⟩] ∧
      ∃ delta, report.delta = some delta ∧
        delta.after = [⟨"r2", "writer"⟩] ++ [⟨"r1", "reader"⟩] := by
  intro request script run
  have hfields : run.result.toOption.map (fun report =>
      (report.changed, report.changes, report.endState)) =
      some (true, [⟨"r1", "reader"⟩], [⟨"r2", "writer"⟩]) := by decide +kernel
  cases hresult : run.result with
  | error problem =>
    rw [hresult] at hfields
    cases hfields
  | ok report =>
    rw [hresult] at hfields
    obtain ⟨hchanged, hrest⟩ := Prod.mk.inj (Option.some.inj hfields)
    obtain ⟨hchanges, hend⟩ := Prod.mk.inj hrest
    have haccounts := report_accounts request Script.directory script rfl hresult
    obtain ⟨delta, hdelta⟩ := Option.isSome_iff_exists.mp (haccounts.delta.mpr ⟨rfl, hchanged⟩)
    -- a dry run ends with the listing that it read
    have hexisting : report.existing = [⟨"r2", "writer"⟩] := by
      obtain ⟨reads, rest, -, -, -, ⟨-, -, hsame⟩ | ⟨-, -, hlive⟩⟩ := haccounts.lists
      · rw [← hsame, hend]
      · cases hlive
    have hafter := haccounts.present rfl rfl delta hdelta
    rw [hexisting, hchanges] at hafter
    exact ⟨report, rfl, haccounts, hchanged, hchanges, hend, delta, hdelta, hafter⟩

end Request

end GroupRoles
