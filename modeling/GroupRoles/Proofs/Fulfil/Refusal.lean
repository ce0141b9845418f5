import GroupRoles.Directory.Script
import GroupRoles.Proofs.Fulfil.Plan
import GroupRoles.Proofs.Fulfil.References

/-!
# Runs that are refused for their references

A reference that identifies nothing is found before the first call (`run_fulfil_of_unsound`). Once
the references are sound, no answer and no failure of a directory makes a run end for them
(`reference_ne_of_sound`): it ends with a report, with something that is not found, or with a
failure of the directory. So whether a run is refused is a matter of its request alone
(`reference_problem_iff`).
-/

namespace GroupRoles

open Program

/-- A problem that is not about what a reference says. -/
def Problem.isOfRun : Problem → Prop
  | .reference _ => False
  | _ => True

namespace RoleKey

theorem settle_isOfRun {place : Place} {key : RoleKey} {reply : Except Failure (Option Role)}
    {problem : Problem} (h : settle place key reply = .error problem) : problem.isOfRun := by
  match reply with
  | .error failure =>
    cases h
    trivial
  | .ok none =>
    cases h
    trivial
  | .ok (some found) => cases h

theorem settleAll_isOfRun {place : Place} {keys : List RoleKey}
    {replies : List (Except Failure (Option Role))} {problem : Problem}
    (h : settleAll place keys replies = .error problem) : problem.isOfRun := by
  induction keys generalizing replies with
  | nil => cases h
  | cons key keys ih =>
    by_cases hknown : ∃ role, key = known role
    · obtain ⟨role, rfl⟩ := hknown
      rw [settleAll] at h
      cases hrest : settleAll place keys replies with
      | error other =>
        rw [hrest] at h
        cases h
        exact ih hrest
      | ok roles =>
        rw [hrest] at h
        cases h
    · -- the first reference that fails is the one reported
      rw [settleAll_cons _ fun role he => hknown ⟨role, he⟩] at h
      cases hfirst : settle place key (replies.headD (.ok none)) with
      | error other =>
        rw [hfirst] at h
        cases h
        exact settle_isOfRun hfirst
      | ok role =>
        rw [hfirst] at h
        cases hrest : settleAll place keys replies.tail with
        | error other =>
          rw [hrest] at h
          cases h
          exact ih hrest
        | ok roles =>
          rw [hrest] at h
          cases h

end RoleKey

namespace Request

/-! ## Sound references -/

/-- The check of the references looks at the group, then at the client, then at the role entries. -/
theorem checkReferences_eq (request : Request) :
    request.checkReferences =
      if request.group.id.isNone && request.group.name.isNone then .error .emptyGroup
      else if request.client.any fun client => client.id.isNone && client.clientId.isNone then
        .error .emptyClient
      else
        match (request.roles.getD []).findIdx? fun entry =>
          entry.id.isNone && entry.name.isNone with
        | some index => .error (.emptyRole index)
        | none => .ok (request.roles.map fun _ => request.references) := by
  unfold checkReferences GroupKey.check
  split
  · rfl
  · cases request.client with
    | none => exact request.roleKeys_eq
    | some client =>
      simp only [ClientKey.check, Option.any_some]
      split
      · rfl
      · exact request.roleKeys_eq

theorem checkReferences_eq_ok_iff {request : Request} {keys : Option (List RoleKey)} :
    request.checkReferences = .ok keys ↔
      request.group.check = .ok () ∧ (∀ client ∈ request.client, client.check = .ok ()) ∧
        request.roleKeys = .ok keys := by
  unfold checkReferences
  cases hgroup : request.group.check with
  | error fault => exact iff_of_false (fun h => by cases h) (fun h => by cases h.1)
  | ok _ =>
    cases hclient : request.client with
    | none => exact ⟨fun h => ⟨rfl, fun other hother => (by cases hother), h⟩, fun h => h.2.2⟩
    | some client =>
      have hsome : (∀ other ∈ some client, other.check = .ok ()) ↔ client.check = .ok () :=
        ⟨fun h => h client rfl, fun h other hother => Option.mem_some_iff.mp hother ▸ h⟩
      rw [hsome]
      dsimp only
      cases hcheck : client.check with
      | error fault => exact iff_of_false (fun h => by cases h) (fun h => by cases h.2.1)
      | ok _ => exact ⟨fun h => ⟨rfl, rfl, h⟩, fun h => h.2.2⟩

/-- Whether the references of a request are sound hangs on which role entries it has. -/
theorem isOk_checkReferences_congr (request : Request) {entries entries' : List RoleEntry}
    (hsame : ∀ entry, entry ∈ entries ↔ entry ∈ entries') :
    (checkReferences { request with roles := some entries }).isOk =
      (checkReferences { request with roles := some entries' }).isOk := by
  have hempty : (entries.findIdx? fun entry => entry.id.isNone && entry.name.isNone).isSome =
      (entries'.findIdx? fun entry => entry.id.isNone && entry.name.isNone).isSome := by
    rw [List.findIdx?_isSome, List.findIdx?_isSome, Bool.eq_iff_iff, List.any_eq_true,
      List.any_eq_true]
    exact exists_congr fun entry => and_congr_left fun _ => hsame entry
  rw [checkReferences_eq, checkReferences_eq]
  dsimp only [Option.getD_some]
  split
  · rfl
  split
  · rfl
  cases hfirst : entries.findIdx? fun entry => entry.id.isNone && entry.name.isNone <;>
    cases hfirst' : entries'.findIdx? fun entry => entry.id.isNone && entry.name.isNone
  · rfl
  · rw [hfirst, hfirst'] at hempty
    cases hempty
  · rw [hfirst, hfirst'] at hempty
    cases hempty
  · rfl

theorem failsOnly_find {realm : String} {key : GroupKey} (h : key.check = .ok ()) :
    (key.find realm).FailsOnly Problem.isOfRun := by
  match key with
  | ⟨some id, name⟩ => trivial
  | ⟨none, none⟩ => cases h
  | ⟨none, some name⟩ =>
    intro found
    cases found <;> trivial

theorem failsOnly_find? {realm : String} {client : Option ClientKey}
    (h : ∀ key ∈ client, key.check = .ok ()) :
    (ClientKey.find? realm client).FailsOnly Problem.isOfRun := by
  match client with
  | none => trivial
  | some ⟨some id, clientId⟩ => trivial
  | some ⟨none, none⟩ => cases h _ rfl
  | some ⟨none, some clientId⟩ =>
    intro found
    cases found <;> trivial

theorem failsOnly_findAll (realm group : String) (client : Option ClientTarget)
    (keys : List RoleKey) :
    (RoleKey.findAll realm group client keys).FailsOnly Problem.isOfRun := by
  intro replies
  dsimp only
  split
  · trivial
  · next problem hsettle => exact RoleKey.settleAll_isOfRun hsettle

theorem failsOnly_prepareKeys {request : Request} {keys : Option (List RoleKey)}
    (h : request.checkReferences = .ok keys) :
    (request.prepareKeys keys).FailsOnly Problem.isOfRun := by
  obtain ⟨hgroup, hclient, -⟩ := checkReferences_eq_ok_iff.mp h
  refine FailsOnly.bind (failsOnly_find hgroup) fun group => ?_
  refine FailsOnly.bind (failsOnly_find? hclient) fun client => ?_
  cases keys with
  | none => trivial
  | some keys =>
    refine FailsOnly.bind (failsOnly_findAll _ _ _ _) fun desired => ?_
    exact fun available assigned => trivial

theorem failsOnly_finish (request : Request) (found : Option Plan) :
    (request.finish found).FailsOnly Problem.isOfRun := by
  cases found with
  | none => trivial
  | some plan =>
    refine FailsOnly.bind ?_ fun effect => trivial
    unfold Goal.apply
    split
    · trivial
    · split
      · trivial
      · exact fun _ endState => trivial

/-- Once the references are sound, no program of the request fails for them. -/
theorem failsOnly_fulfil {request : Request} {keys : Option (List RoleKey)}
    (h : request.checkReferences = .ok keys) : request.fulfil.FailsOnly Problem.isOfRun := by
  rw [fulfil_eq]
  refine FailsOnly.bind ?_ fun found => failsOnly_finish request found
  unfold prepare
  rw [h]
  exact failsOnly_prepareKeys h

/-! ## Runs -/

variable {σ : Type} {request : Request}

/-- A request with an unsound reference makes no call and leaves the directory as it is. -/
theorem run_fulfil_of_unsound {fault : ReferenceFault}
    (h : request.checkReferences = .error fault) (d : Directory σ) (s : σ) :
    request.fulfil.run d s = ⟨.error (.reference fault), [], s⟩ := by
  unfold fulfil
  rw [h]
  rfl

/-- With sound references a run that fails has not found something, or the directory failed. -/
theorem notFound_or_directory {keys : Option (List RoleKey)}
    (h : request.checkReferences = .ok keys) (d : Directory σ) (s : σ) {problem : Problem}
    (hfail : (request.fulfil.run d s).result = .error problem) :
    problem.isNotFound = true ∨ ∃ failure, problem = .directory failure := by
  rcases (failsOnly_fulfil h).of_error (trace_run d request.fulfil s) hfail with hrun | hdirectory
  · cases problem with
    | reference fault => exact hrun.elim
    | notFound kind handle place => exact .inl rfl
    | directory failure => exact .inr ⟨failure, rfl⟩
  · exact .inr hdirectory

/-- With sound references no directory makes a run end for them. -/
theorem reference_ne_of_sound {keys : Option (List RoleKey)}
    (h : request.checkReferences = .ok keys) (d : Directory σ) (s : σ) (fault : ReferenceFault) :
    (request.fulfil.run d s).result ≠ .error (.reference fault) := by
  intro hfail
  rcases notFound_or_directory h d s hfail with hnot | ⟨failure, he⟩
  · cases hnot
  · cases he

/-! ## Empty references -/

/-- A run ends for a reference exactly when the check of the references finds it. -/
theorem result_eq_reference_iff {σ : Type} {request : Request} {fault : ReferenceFault}
    (d : Directory σ) (s : σ) :
    (request.fulfil.run d s).result = .error (.reference fault) ↔
      request.checkReferences = .error fault := by
  cases hcheck : request.checkReferences with
  | ok keys => exact iff_of_false (reference_ne_of_sound hcheck d s fault) (fun h => by cases h)
  | error other =>
    rw [run_fulfil_of_unsound hcheck, Except.error.injEq, Except.error.injEq,
      Problem.reference.injEq]

/-- A run ends for a reference exactly when its request has an empty one: neither an id nor a name
is given for the group, or neither an id nor a client id for a client that is given, or neither an
id nor a name in a role entry. It has made no call by then, so nothing that a directory answers, or
fails with, is in it. If the empty reference is a role entry, the message tells the position of
the first one. -/
theorem reference_problem_iff {σ : Type} (request : Request) (d : Directory σ) (s : σ) :
    let run := request.fulfil.run d s
    let entries := request.roles.getD []
    let NoGroup := request.group.id = none ∧ request.group.name = none
    let NoClient := ∃ client ∈ request.client, client.id = none ∧ client.clientId = none
    ((∃ fault, run.result = .error (.reference fault)) ↔
      NoGroup ∨ NoClient ∨ ∃ entry ∈ entries, entry.id = none ∧ entry.name = none) ∧
    ∀ fault, run.result = .error (.reference fault) →
      run.events = [] ∧ run.state = s ∧
        (¬ NoGroup → ¬ NoClient → ∃ index,
          entries.findIdx? (fun entry => entry.id.isNone && entry.name.isNone) = some index ∧
            ∀ detail, (Problem.reference fault).message detail =
              "invalid input: " ++
                s!"either `name` or `id` has to be specified on each role (role #{index})") := by
  intro run entries NoGroup NoClient
  have hgroup : (request.group.id.isNone && request.group.name.isNone) = true ↔ NoGroup := by
    rw [Bool.and_eq_true, Option.isNone_iff_eq_none, Option.isNone_iff_eq_none]
  have hclient : (request.client.any fun client => client.id.isNone && client.clientId.isNone) =
      true ↔ NoClient := by
    simp only [Option.any_eq_true, Bool.and_eq_true, Option.isNone_iff_eq_none, NoClient,
      Option.mem_def]
  have hentry : ∀ entry : RoleEntry, (entry.id.isNone && entry.name.isNone) = true ↔
      entry.id = none ∧ entry.name = none := by
    intro entry
    rw [Bool.and_eq_true, Option.isNone_iff_eq_none, Option.isNone_iff_eq_none]
  -- once group and client are sound, the entries decide
  have hentries : ¬ NoGroup → ¬ NoClient → request.checkReferences =
      match entries.findIdx? fun entry => entry.id.isNone && entry.name.isNone with
      | some index => .error (.emptyRole index)
      | none => .ok (request.roles.map fun _ => request.references) := by
    intro hg hc
    rw [checkReferences_eq, if_neg (mt hgroup.mp hg), if_neg (mt hclient.mp hc)]
  refine ⟨?_, fun fault hfault => ?_⟩
  · simp only [run, result_eq_reference_iff]
    by_cases hg : NoGroup
    · refine iff_of_true ⟨.emptyGroup, ?_⟩ (.inl hg)
      rw [checkReferences_eq, if_pos (hgroup.mpr hg)]
    by_cases hc : NoClient
    · refine iff_of_true ⟨.emptyClient, ?_⟩ (.inr (.inl hc))
      rw [checkReferences_eq, if_neg (mt hgroup.mp hg), if_pos (hclient.mpr hc)]
    rw [hentries hg hc, or_iff_right hg, or_iff_right hc]
    cases hfirst : entries.findIdx? fun entry => entry.id.isNone && entry.name.isNone with
    | none =>
      refine iff_of_false (fun ⟨fault, h⟩ => by cases h) fun ⟨entry, hmem, hempty⟩ => ?_
      have hfull := List.findIdx?_eq_none_iff.mp hfirst entry hmem
      rw [(hentry entry).mpr hempty] at hfull
      cases hfull
    | some index =>
      obtain ⟨hlt, hempty, -⟩ := List.findIdx?_eq_some_iff_getElem.mp hfirst
      exact iff_of_true ⟨_, rfl⟩ ⟨_, List.getElem_mem hlt, (hentry _).mp hempty⟩
  · have hcheck := (result_eq_reference_iff d s).mp hfault
    have hrun : run = ⟨.error (.reference fault), [], s⟩ := run_fulfil_of_unsound hcheck d s
    refine ⟨congrArg Outcome.events hrun, congrArg Outcome.state hrun, fun hg hc => ?_⟩
    rw [hentries hg hc] at hcheck
    cases hfirst : entries.findIdx? fun entry => entry.id.isNone && entry.name.isNone with
    | none =>
      rw [hfirst] at hcheck
      cases hcheck
    | some index =>
      rw [hfirst] at hcheck
      cases hcheck
      exact ⟨index, rfl, fun detail => rfl⟩

/-- Of three role entries the last two are empty: no call is made, and the message tells the
position of the second. -/
theorem reference_problem_second :
    let request : Request :=
      { group := { name := some "staff" }, client := some { clientId := some "portal" }
        roles := some [{ name := some "reader" }, {}, {}] }
    let run := request.fulfil.run Script.directory {}
    ∃ fault, run.result = .error (.reference fault) ∧ run.events = [] ∧
      (Problem.reference fault).message .full =
        "invalid input: either `name` or `id` has to be specified on each role (role #1)" := by
  intro request run
  obtain ⟨hiff, hrest⟩ := reference_problem_iff request Script.directory {}
  have hempty : ∃ entry ∈ request.roles.getD [], entry.id = none ∧ entry.name = none :=
    ⟨{}, by decide, rfl, rfl⟩
  obtain ⟨fault, hfault⟩ := hiff.mpr (.inr (.inr hempty))
  obtain ⟨hevents, -, hposition⟩ := hrest fault hfault
  have hgroup : ¬ (request.group.id = none ∧ request.group.name = none) := by decide
  have hclient : ¬ ∃ client ∈ request.client, client.id = none ∧ client.clientId = none := by
    simp [request]
  obtain ⟨index, hfirst, hmessage⟩ := hposition hgroup hclient
  have hindex : 1 = index := Option.some.inj hfirst
  rw [← hindex] at hmessage
  exact ⟨fault, hfault, hevents, hmessage .full⟩

end Request

end GroupRoles
