import GroupRoles.Proofs.Memory.Outcome
import Mathlib.Data.List.Nodup
import Mathlib.Data.List.Perm.Basic

/-!
# A dry run foresees the live run

A dry run predicts the roles of the group by names: new ones are appended, removed ones are left
out. The store works with ids and lists in the order of the catalog. Where no role includes another,
and names and ids both tell the roles of the scope apart, the two come to the same roles
(`predict_perm`, `predict_eq`), and so do the dry run and the live run of a request
(`dryRun_foresees`).
-/

namespace GroupRoles

/-- What tells the elements of a list apart tells whether one of them is in another list. -/
theorem mem_map_iff_of_nodup {α β : Type} {f : α → β} {all some : List α} {a : α}
    (hnodup : (all.map f).Nodup) (hsome : ∀ b ∈ some, b ∈ all) (ha : a ∈ all) :
    f a ∈ some.map f ↔ a ∈ some := by
  refine ⟨fun h => ?_, List.mem_map_of_mem⟩
  obtain ⟨b, hb, he⟩ := List.mem_map.mp h
  have hsame : b = a := List.inj_on_of_nodup_map hnodup (hsome b hb) ha he
  exact hsame ▸ hb

/-- Roles that are told apart, and the first roles of other names, are told apart. -/
theorem Role.nodup_append_firstOfNames {existing : List Role} (h : existing.Nodup)
    (roles : List Role) :
    (existing ++ firstOfNames (existing.map Role.name) roles).Nodup := by
  rw [List.nodup_append']
  refine ⟨h, .of_map _ (nodup_firstOfNames _ _), ?_⟩
  intro role hold hnew
  exact (mem_firstOfNames.mp hnew).1 (List.mem_map_of_mem hold)

/-- Where names tell roles apart, the first roles of new names are all the new roles. -/
theorem Role.mem_append_firstOfNames {all existing roles : List Role} {role : Role}
    (hnames : (all.map Role.name).Nodup) (hexisting : ∀ role ∈ existing, role ∈ all)
    (hroles : ∀ role ∈ roles, role ∈ all) :
    role ∈ existing ++ firstOfNames (existing.map Role.name) roles ↔
      role ∈ existing ∨ role ∈ roles := by
  have hsub : ∀ role ∈ firstOfNames (existing.map Role.name) roles, role ∈ roles :=
    fun role hfirst => List.mem_of_find?_eq_some (mem_firstOfNames.mp hfirst).2
  rw [List.mem_append]
  refine ⟨Or.imp_right (hsub role), ?_⟩
  rintro (hold | hrole)
  · exact .inl hold
  by_cases hname : role.name ∈ existing.map Role.name
  · exact .inl ((mem_map_iff_of_nodup hnames hexisting (hroles role hrole)).mp hname)
  · -- the first role of this name can only be this one
    obtain ⟨first, hfirst, he⟩ := exists_mem_firstOfNames hrole hname
    have hsame : first = role := List.inj_on_of_nodup_map hnames
      (hroles first (hsub first hfirst)) (hroles role hrole) he
    exact .inr (hsame ▸ hfirst)

namespace Memory

open Program

namespace Realm

variable {realm : Realm} {group : String} {scope : Scope}

/-- Ids tell the roles in the scope of a request apart. -/
def IdsApart (realm : Realm) (request : Request) : Prop :=
  ∀ scope ∈ realm.scope? request, ((realm.roles scope).map Role.id).Nodup

/-- No role in the scope of a request includes another. -/
def NoMembers (realm : Realm) (request : Request) : Prop :=
  ∀ scope ∈ realm.scope? request, ∀ entry ∈ realm.catalog scope, entry.members = []

/-- Where no role includes another, only the roots are reached. -/
theorem reached_iff_mem {catalog : List CatalogEntry} {roots : List String} {id : String}
    (hplain : ∀ entry ∈ catalog, entry.members = []) : Reached catalog roots id ↔ id ∈ roots := by
  refine ⟨?_, .of_mem⟩
  rintro ⟨root, hroot, hpath⟩
  cases hpath with
  | refl => exact hroot
  | @tail last _ _ hlink =>
    have hmembers : membersOf catalog last = [] := by
      unfold membersOf
      split
      · next entry hfind => exact hplain entry (List.mem_of_find?_eq_some hfind)
      · rfl
    have hlink : id ∈ membersOf catalog last := hlink
    rw [hmembers] at hlink
    exact absurd hlink List.not_mem_nil

/-- Where no role includes another, a group has the roles that are mapped to it. -/
theorem effective_eq_select (hplain : ∀ entry ∈ realm.catalog scope, entry.members = []) :
    realm.effective group scope = realm.select scope (realm.direct group scope).contains := by
  unfold effective select
  apply congrArg (List.map CatalogEntry.role)
  apply List.filter_congr
  intro entry _
  rw [Bool.eq_iff_iff, List.contains_iff_mem, List.contains_iff_mem, mem_reach_iff]
  exact reached_iff_mem hplain

/-- Where names tell the roles of the scope apart, a choice among them has none twice. -/
theorem nodup_select (hnames : ((realm.roles scope).map Role.name).Nodup) (ids : List String) :
    (realm.select scope ids.contains).Nodup := by
  have hroles : (realm.roles scope).Nodup := .of_map _ hnames
  have hsublist : (realm.select scope ids.contains).Sublist (realm.roles scope) :=
    List.filter_sublist.map _
  exact hroles.sublist hsublist

end Realm

/-! ## The prediction -/

/-- What the prediction goes by: names and ids tell the roles of the scope apart, none of them
includes another, the desired roles are among them, and the survey is of this realm. -/
structure Foreseeable (realm : Realm) (plan : Plan) : Prop where
  names : ((realm.roles plan.scope).map Role.name).Nodup
  ids : ((realm.roles plan.scope).map Role.id).Nodup
  plain : ∀ entry ∈ realm.catalog plan.scope, entry.members = []
  desired : ∀ role ∈ plan.desired, role ∈ realm.roles plan.scope
  survey : plan.survey = realm.survey plan.group.id plan.scope

namespace Foreseeable

variable {realm : Realm} {plan : Plan} {goal : Goal} {name : String}
  {before after : Table String Realm}

/-- The changes are roles of the scope. -/
theorem changes_subset (h : Foreseeable realm plan) :
    ∀ role ∈ plan.changes goal, role ∈ realm.roles plan.scope :=
  fun role hrole => h.desired role (Goal.mem_changes hrole).1

/-- The survey shows the roles that are mapped to the group. -/
theorem assigned_eq (h : Foreseeable realm plan) :
    plan.survey.assigned =
      realm.select plan.scope (realm.direct plan.group.id plan.scope).contains := by
  rw [h.survey]
  exact Realm.effective_eq_select h.plain

/-- After changes the group has the roles that are mapped to it then. -/
theorem effective_eq (h : Foreseeable (before.get name) plan)
    (hshifted : Shifted name goal plan.group.id plan.scope (plan.changes goal) before after) :
    (after.get name).effective plan.group.id plan.scope =
      (before.get name).select plan.scope (Realm.changeIds goal
        ((before.get name).direct plan.group.id plan.scope) (plan.changes goal)).contains := by
  have hcatalog := hshifted.catalog plan.scope
  have hplain : ∀ entry ∈ (after.get name).catalog plan.scope, entry.members = [] := by
    rw [hcatalog]
    exact h.plain
  rw [Realm.effective_eq_select hplain, hshifted.direct]
  unfold Realm.select
  rw [hcatalog]

/-- After an assignment the group has the predicted roles, maybe in another order. -/
theorem predict_perm (h : Foreseeable (before.get name) plan)
    (hshifted : Shifted name .present plan.group.id plan.scope (plan.changes .present) before
      after) :
    (Goal.present.predict plan.survey.assigned (plan.changes .present)).Perm
      ((after.get name).effective plan.group.id plan.scope) := by
  rw [Goal.predict, h.assigned_eq, h.effective_eq hshifted]
  clear hshifted
  generalize before.get name = realm at h ⊢
  have hexisting : ∀ role ∈ realm.select plan.scope
      (realm.direct plan.group.id plan.scope).contains, role ∈ realm.roles plan.scope :=
    fun role hrole => (Realm.mem_select.mp hrole).1
  have hbefore := Realm.nodup_select h.names (realm.direct plan.group.id plan.scope)
  rw [List.perm_ext_iff_of_nodup (Role.nodup_append_firstOfNames hbefore _)
    (Realm.nodup_select h.names _)]
  intro role
  -- a role is among the changes when it is a role of the scope whose id is
  have hchanged : role ∈ plan.changes .present ↔
      role ∈ realm.roles plan.scope ∧ role.id ∈ (plan.changes .present).map Role.id := by
    refine ⟨fun hrole => ⟨h.changes_subset role hrole, List.mem_map_of_mem hrole⟩, ?_⟩
    rintro ⟨hrole, hid⟩
    exact (mem_map_iff_of_nodup h.ids h.changes_subset hrole).mp hid
  rw [Role.mem_append_firstOfNames h.names hexisting h.changes_subset, Realm.mem_select,
    Realm.mem_select, List.contains_iff_mem, List.contains_iff_mem, Realm.mem_changeIds_present,
    hchanged, and_or_left]

/-- After a removal the group has the predicted roles. -/
theorem predict_eq (h : Foreseeable (before.get name) plan)
    (hshifted : Shifted name .absent plan.group.id plan.scope (plan.changes .absent) before
      after) :
    Goal.absent.predict plan.survey.assigned (plan.changes .absent) =
      (after.get name).effective plan.group.id plan.scope := by
  rw [Goal.predict, h.assigned_eq, h.effective_eq hshifted]
  clear hshifted
  generalize before.get name = realm at h ⊢
  unfold Realm.select
  rw [List.filter_map, List.filter_filter]
  congr 1
  apply List.filter_congr
  intro entry hentry
  have hrole : entry.role ∈ realm.roles plan.scope := List.mem_map_of_mem hentry
  -- a role of the scope is among the changes when its name is, and when its id is
  have hname : Role.hasName (plan.changes .absent) entry.role.name = true ↔
      entry.role.id ∈ (plan.changes .absent).map Role.id := by
    rw [Role.hasName_iff, mem_map_iff_of_nodup h.names h.changes_subset hrole,
      mem_map_iff_of_nodup h.ids h.changes_subset hrole]
  rw [Bool.eq_iff_iff, Bool.and_eq_true, List.contains_iff_mem, List.contains_iff_mem,
    Realm.mem_changeIds_absent, ← hname, Function.comp_apply, Bool.not_eq_true', Bool.not_eq_true,
    and_comm]

end Foreseeable

/-! ## The two runs -/

section Runs

variable {request : Request} {plan : Plan} {before after : Table String Realm}
  {result : Except Problem Report}

/-- A run with a plan whose changes the catalog knows has a report. If there are changes, a dry run
previews them and a live run makes them. -/
theorem Ending.report_of_planned (h : Ending request before result after)
    (hplan : Planned request before plan)
    (hknows : (before.get request.realm).Knows plan.scope (plan.changes request.goal)) :
    ∃ report, result = .ok report ∧ report.changed = !(plan.changes request.goal).isEmpty ∧
      (plan.changes request.goal ≠ [] → report = request.report plan
        (if request.dryRun then .previewed
        else .applied ((((batch request plan).make before).get request.realm).effective
          plan.group.id plan.scope))) := by
  rcases h.completed_or hplan with ⟨-, report, hok, hdone⟩ | ⟨hfails, -⟩
  · refine ⟨report, hok, hdone.changed_eq, fun hsome => ?_⟩
    have hroles : request.roles.isSome = true := by
      rw [Option.isSome_iff_ne_none]
      exact fun hnone => hsome (hplan.changes_eq_nil hnone)
    rw [hdone.report_eq, if_pos hroles, effect, List.isEmpty_eq_false_iff.mpr hsome]
    rfl
  · exact absurd (.inr hknows) hfails

end Runs

namespace Store

/-- A dry run and a live run of a request that wants to see the roles before and after, from one
store where names and ids both tell the roles of the scope apart, no role includes another, and
references that give id and name are roles of the scope. They fail with the same problem, or both
have a report. If there are changes, both show the same roles before them, and the roles that the
dry run predicts are those that the live run ends with: in the same order where roles are removed,
maybe in another one where roles are assigned. -/
theorem dryRun_foresees (store : Store) (request : Request) (hwant : request.wantDelta = true)
    (hlists : (store.realms.get request.realm).Lists request)
    (hnames : (store.realms.get request.realm).NamesApart request)
    (hids : (store.realms.get request.realm).IdsApart request)
    (hplain : (store.realms.get request.realm).NoMembers request) :
    let dry := ({ request with dryRun := true } : Request).fulfil.run directory store
    let live := ({ request with dryRun := false } : Request).fulfil.run directory store
    (∃ problem, dry.result = .error problem ∧ live.result = .error problem) ∨
      ∃ shown report, dry.result = .ok shown ∧ live.result = .ok report ∧
        shown.changed = report.changed ∧
        (report.changed = true → ∃ foreseen made, shown.delta = some foreseen ∧
          report.delta = some made ∧ foreseen.before = made.before ∧
          (request.goal = .present → foreseen.after.Perm report.endState) ∧
          (request.goal = .absent → foreseen.after = report.endState)) := by
  intro dry live
  cases hprepare : (request.prepare.run directory store).result with
  | error problem =>
    -- preparing does not look at whether the run is dry
    have hdry : dry.result = .error problem := Request.run_fulfil_of_error hprepare
    have hlive : live.result = .error problem := Request.run_fulfil_of_error hprepare
    exact .inl ⟨problem, hdry, hlive⟩
  | ok found =>
    obtain ⟨hsound, plan, hplan, -⟩ := prepare_eq_ok_iff.mp hprepare
    obtain ⟨-, hscope, -, -, hsurvey⟩ := Realm.plan?_eq_some.mp hplan
    have hforeseeable : Foreseeable (store.realms.get request.realm) plan :=
      ⟨hnames plan.scope hscope, hids plan.scope hscope, hplain plan.scope hscope,
        Realm.desired_mem_roles hlists hplan, hsurvey⟩
    have hknows : (store.realms.get request.realm).Knows plan.scope (plan.changes request.goal) :=
      fun role hrole => List.mem_map_of_mem (hforeseeable.changes_subset role hrole)
    have hdry : Ending { request with dryRun := true } store.realms dry.result dry.state.realms :=
      ending_of_run store _
    have hlive : Ending { request with dryRun := false } store.realms live.result
        live.state.realms := ending_of_run store _
    obtain ⟨shown, hshown, hchanged, hpreviewed⟩ :=
      hdry.report_of_planned ⟨hsound, hplan⟩ hknows
    obtain ⟨report, hreport, hchanged', happlied⟩ :=
      hlive.report_of_planned ⟨hsound, hplan⟩ hknows
    refine .inr ⟨shown, report, hshown, hreport, hchanged.trans hchanged'.symm, fun hchange => ?_⟩
    have hsome : plan.changes request.goal ≠ [] := by
      intro hnil
      have hnone : report.changed = !(plan.changes request.goal).isEmpty := hchanged'
      rw [hnil, hchange] at hnone
      cases hnone
    obtain rfl := hpreviewed hsome
    obtain rfl := happlied hsome
    have hshifted : Shifted request.realm request.goal plan.group.id plan.scope
        (plan.changes request.goal) store.realms
        ((batch { request with dryRun := false } plan).make store.realms) :=
      shifted_make (batch request plan) store.realms
    refine ⟨⟨plan.survey.assigned,
      request.goal.predict plan.survey.assigned (plan.changes request.goal)⟩, _,
      if_pos hwant, if_pos hwant, rfl, fun hgoal => ?_, fun hgoal => ?_⟩
    · rw [hgoal] at hshifted ⊢
      exact hforeseeable.predict_perm hshifted
    · rw [hgoal] at hshifted ⊢
      exact hforeseeable.predict_eq hshifted

/-- Two roles are assigned to a group that has the last role of the catalog: the dry run appends
them to it, and the live run lists them before it. -/
theorem dryRun_foresees_order :
    let realm : Realm :=
      { groups := [⟨"g1", "staff"⟩]
        catalogs := ⟨[(none, [⟨⟨"r1", "reader"⟩, []⟩, ⟨⟨"r2", "writer"⟩, []⟩,
          ⟨⟨"r3", "editor"⟩, []⟩])]⟩
        mappings := ⟨[(("g1", none), ["r3"])]⟩ }
    let store : Store := { realms := ⟨[("master", realm)]⟩ }
    let request : Request :=
      { group := { name := some "staff" }
        roles := some [{ name := some "reader" }, { id := some "r2", name := some "writer" },
          { name := some "reader" }, { id := some "r3" }]
        wantDelta := true }
    let dry := ({ request with dryRun := true } : Request).fulfil.run directory store
    let live := ({ request with dryRun := false } : Request).fulfil.run directory store
    ∃ shown report, dry.result = .ok shown ∧ live.result = .ok report ∧ report.changed = true ∧
      (shown.delta.map Delta.after = some
        [⟨"r3", "editor"⟩, ⟨"r1", "reader"⟩, ⟨"r2", "writer"⟩]) ∧
      report.endState = [⟨"r1", "reader"⟩, ⟨"r2", "writer"⟩, ⟨"r3", "editor"⟩] ∧
      ∃ foreseen, shown.delta = some foreseen ∧ foreseen.after.Perm report.endState := by
  intro realm store request dry live
  have hshown : dry.result.toOption.map (fun shown => shown.delta.map Delta.after) =
      some (some [⟨"r3", "editor"⟩, ⟨"r1", "reader"⟩, ⟨"r2", "writer"⟩]) := by decide +kernel
  have hmade : live.result.toOption.map (fun report => (report.changed, report.endState)) =
      some (true, [⟨"r1", "reader"⟩, ⟨"r2", "writer"⟩, ⟨"r3", "editor"⟩]) := by decide +kernel
  have hscope : ∀ scope, scope ∈ (store.realms.get request.realm).scope? request → none = scope :=
    fun scope hscope => Option.some.inj hscope
  have hlists : (store.realms.get request.realm).Lists request := by
    intro scope hmem role hrole
    have hrole : role = ⟨"r2", "writer"⟩ := by
      have hreferences : request.references =
          [.byName "reader", .known ⟨"r2", "writer"⟩, .byName "reader", .byId "r3"] := rfl
      rw [hreferences] at hrole
      simpa using hrole
    rw [hrole, ← hscope scope hmem]
    decide +kernel
  have hnames : (store.realms.get request.realm).NamesApart request := by
    intro scope hmem
    rw [← hscope scope hmem]
    decide +kernel
  have hids : (store.realms.get request.realm).IdsApart request := by
    intro scope hmem
    rw [← hscope scope hmem]
    decide +kernel
  have hplain : (store.realms.get request.realm).NoMembers request := by
    intro scope hmem
    rw [← hscope scope hmem]
    decide +kernel
  rcases dryRun_foresees store request rfl hlists hnames hids hplain with
    ⟨problem, -, hfail⟩ | ⟨shown, report, hdry, hlive, -, hforeseen⟩
  · have hfail : live.result = .error problem := hfail
    rw [hfail] at hmade
    cases hmade
  · have hdry : dry.result = .ok shown := hdry
    have hlive : live.result = .ok report := hlive
    rw [hdry] at hshown
    rw [hlive] at hmade
    have hmade := Prod.mk.inj (Option.some.inj hmade)
    obtain ⟨foreseen, -, hdelta, -, -, hperm, -⟩ := hforeseen hmade.1
    exact ⟨shown, report, hdry, hlive, hmade.1, Option.some.inj hshown, hmade.2,
      foreseen, hdelta, hperm rfl⟩

end Store

end Memory

end GroupRoles
