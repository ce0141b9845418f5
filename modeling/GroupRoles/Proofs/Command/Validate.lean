import GroupRoles.Directory.Script
import GroupRoles.Proofs.Command.Load
import GroupRoles.Proofs.Directory.Agenda
import GroupRoles.Proofs.Fulfil.Refusal
import GroupRoles.Proofs.Service.Course

/-!
# What checking settings tells of applying them

`validate` makes the checks of `apply` without a network. It looks at the role list before the
connection and `apply` the other way round, but both accept the same files: those that load, whose
connection names a service, and whose references are sound (`validate_agrees`). A refused file fails
before the first call. An accepted one is not applied for two reasons only: what the directory says,
or a panic, when the service grants a token whose expiry the clock cannot show
(`exists_validated_panicked`).
-/

namespace GroupRoles

variable {path : String} {content : FileContent} {env : Environment}

/-- The group and the client of settings that can be used are sound. -/
theorem Settings.references_of_check {settings : Settings} (h : settings.check env = .ok ()) :
    settings.request.group.check = .ok () ∧
      ∀ client ∈ settings.request.client, client.check = .ok () := by
  unfold check at h
  cases hblank : Text.isAllBlank settings.connection.baseUrl with
  | true =>
    rw [hblank] at h
    cases h
  | false =>
    simp only [hblank, bind_eq_ok_iff, mapError_eq_ok_iff, Bool.false_eq_true, if_false] at h
    obtain ⟨_, -, _, hgroup, h⟩ := h
    refine ⟨hgroup, fun client hclient => ?_⟩
    rw [Option.mem_def.mp hclient] at h
    obtain ⟨_, hcheck, -⟩ := bind_eq_ok_iff.mp h
    exact mapError_eq_ok_iff.mp hcheck

/-- Loaded settings have sound references when their role list is sound. -/
theorem Settings.checkReferences_eq_ok_iff {o : Overrides} {settings : Settings}
    (hload : Settings.load path content env o = .ok settings) {keys : Option (List RoleKey)} :
    settings.request.checkReferences = .ok keys ↔ settings.request.roleKeys = .ok keys := by
  obtain ⟨-, -, -, hcheck⟩ := Settings.load_eq_ok_iff.mp hload
  obtain ⟨hgroup, hclient⟩ := references_of_check hcheck
  rw [Request.checkReferences_eq_ok_iff, and_iff_right hgroup, and_iff_right hclient]

/-- There is an overview of a file when it loads, its connection names a service, and its references
are sound. -/
theorem Overview.exists_ofFile_iff :
    (∃ overview, ofFile path content env = .ok overview) ↔
      ∃ settings service keys, Settings.load path content env {} = .ok settings ∧
        Service.ofConnection settings.connection env = .ok service ∧
        settings.request.checkReferences = .ok keys := by
  simp only [ofFile, ofSettings, bind_eq_ok_iff, mapError_eq_ok_iff]
  constructor
  · rintro ⟨_, settings, hload, keys, hkeys, service, hservice, -⟩
    exact ⟨settings, service, keys, hload, hservice,
      (Settings.checkReferences_eq_ok_iff hload).mpr hkeys⟩
  · rintro ⟨settings, service, keys, hload, hservice, hkeys⟩
    exact ⟨_, settings, hload, keys, (Settings.checkReferences_eq_ok_iff hload).mp hkeys, service,
      hservice, rfl⟩

namespace Command

variable {σ : Type} (n : Http.Network σ)

/-- A file is validated when there is an overview of it, and the network is left alone. -/
theorem isOk_validate (path : String) (content : FileContent) (env : Environment) (network : σ) :
    ((validate path).execute n content env network).1.isOk = true ↔
      ∃ overview, Overview.ofFile path content env = .ok overview := by
  have hexecute : ((validate path).execute n content env network).1 =
      (Overview.ofFile path content env).map fun o => s!"Configuration OK: {o.text}\n" := rfl
  rw [hexecute]
  cases Overview.ofFile path content env with
  | error fault => exact iff_of_false (fun h => by cases h) (fun ⟨_, h⟩ => by cases h)
  | ok overview => exact iff_of_true rfl ⟨overview, rfl⟩

/-- A command that is prepared with sound references, and that no panic ends, fails only by what the
directory says. -/
theorem problem_of_apply {o : Overrides} {service : Service} {request : Request}
    {keys : Option (List RoleKey)} (hprepare : prepare path content env o = .ok (service, request))
    (hkeys : request.checkReferences = .ok keys) {network : σ} {fault : CommandFault}
    (hfail : ((apply path o).execute n content env network).1 = .error fault)
    (hcalm : fault ≠ .panicked) :
    ∃ problem, fault = .run problem ∧
      (problem.isNotFound = true ∨
        ∃ failure, problem = .directory failure ∧ failure ≠ .panic) := by
  rw [execute_apply, hprepare] at hfail
  dsimp only at hfail
  have hconclude : conclude (fulfil n service request network) = .error fault :=
    Service.map_eq_error_iff.mp hfail
  -- the process goes on, so that the fault is the problem of the run
  have hgoes : (fulfil n service request network).state.panicked = false := by
    rw [← Bool.not_eq_true, ← conclude_eq_panicked_iff, hconclude, Except.error.injEq]
    exact hcalm
  rw [conclude_of_calm hgoes] at hconclude
  cases hresult : (fulfil n service request network).result with
  | ok report =>
    rw [hresult] at hconclude
    cases hconclude
  | error problem =>
    rw [hresult] at hconclude
    refine ⟨problem, (Except.error.inj hconclude).symm, ?_⟩
    rcases Request.notFound_or_directory hkeys _ _ hresult with hnone | ⟨failure, rfl⟩
    · exact .inl hnone
    · exact .inr ⟨failure, rfl, ne_panic_of_calm hgoes hresult⟩

/-- A command whose request has an unsound reference fails before the first call. -/
theorem execute_apply_of_unsound {o : Overrides} {service : Service} {request : Request}
    {fault : ReferenceFault} (hprepare : prepare path content env o = .ok (service, request))
    (hfault : request.checkReferences = .error fault) (network : σ) :
    (apply path o).execute n content env network =
      (.error (.run (.reference fault)), network) := by
  have hrun : fulfil n service request network =
      ⟨.error (.reference fault), [], { session := { network } }⟩ :=
    Request.run_fulfil_of_unsound hfault _ _
  rw [execute_apply, hprepare]
  dsimp only
  rw [hrun]
  rfl

/-- A run ends alike whether the network keeps a log or not. -/
theorem fulfil_alike_logged (service : Service) (request : Request) (network : σ) :
    (fulfil n service request network).Alike (Service.Process.Alike fun s t => t.1 = s)
      (fulfil n.logged service request (network, [])) :=
  Program.run_alike (Service.process_alike n.alike_logged service)
    (request.fulfil.makesOnly_true.mono fun _ _ _ _ => trivial) ⟨⟨rfl, rfl⟩, rfl⟩

/-- Keeping a log of what is exchanged changes nothing of what a command does. -/
theorem execute_apply_logged (o : Overrides) (network : σ) :
    let applied := (apply path o).execute n content env network
    let logged := (apply path o).execute n.logged content env (network, [])
    logged.1 = applied.1 ∧ logged.2.1 = applied.2 := by
  dsimp only
  simp only [execute_apply]
  cases prepare path content env o with
  | error fault => exact ⟨rfl, rfl⟩
  | ok prepared =>
    obtain ⟨service, request⟩ := prepared
    have halike := fulfil_alike_logged n service request network
    refine ⟨?_, halike.state.session.network⟩
    dsimp only
    rw [conclude_congr halike.result halike.state.panicked]

/-- A command ends with a panic exactly if some answer in the log of its exchanges grants a token
whose expiry the clock cannot show. -/
theorem execute_apply_panicked_iff (o : Overrides) (network : σ) :
    ((apply path o).execute n content env network).1 = .error .panicked ↔
      ∃ service request, prepare path content env o = .ok (service, request) ∧
        ∃ e ∈ ((apply path o).execute n.logged content env (network, [])).2.2,
          Service.GrantsBeyond n service e := by
  simp only [execute_apply]
  cases hprepare : prepare path content env o with
  | error fault =>
    refine iff_of_false (fun h => ?_) (fun ⟨_, _, h, _⟩ => by cases h)
    rw [Except.error.inj h] at hprepare
    exact prepare_ne_panicked hprepare
  | ok prepared =>
    obtain ⟨service, request⟩ := prepared
    have hlog := Service.panicked_run_logged_iff n service request.fulfil network
    have hpanicked := (fulfil_alike_logged n service request network).state.panicked
    dsimp only
    rw [Service.map_eq_error_iff, conclude_eq_panicked_iff, hpanicked]
    refine hlog.trans ⟨fun h => ⟨service, request, rfl, h⟩, ?_⟩
    rintro ⟨_, _, ⟨⟩, h⟩
    exact h

/-- Validating a file and applying it without overrides, on a network that may also keep a log. The
file is accepted exactly when it loads, its connection names a service, and no directory whatever
makes its request end for a reference. When it is accepted, applying it fails only where something
is not found or the directory fails, unless a panic ends it; and that happens exactly if an answer
grants a token whose expiry the clock cannot show. When the file is refused, applying it fails as
well, with the network as it was and no call made. -/
theorem validate_agrees (path : String) (content : FileContent) (env : Environment) (network : σ) :
    let checked := ((validate path).execute n content env network).1
    let applied := (apply path {}).execute n content env network
    let logged := (apply path {}).execute n.logged content env (network, [])
    (checked.isOk = true ↔
      ∃ settings service, Settings.load path content env {} = .ok settings ∧
        Service.ofConnection settings.connection env = .ok service ∧
        ∀ (τ : Type) (d : Directory τ) (s : τ) (fault : ReferenceFault),
          (settings.request.fulfil.run d s).result ≠ .error (.reference fault)) ∧
      (checked.isOk = true → ∀ fault, applied.1 = .error fault → fault ≠ .panicked →
        ∃ problem, fault = .run problem ∧
          (problem.isNotFound = true ∨
            ∃ failure, problem = .directory failure ∧ failure ≠ .panic)) ∧
      (logged.1 = applied.1 ∧ logged.2.1 = applied.2) ∧
      (applied.1 = .error .panicked ↔
        ∃ service request, prepare path content env {} = .ok (service, request) ∧
          ∃ e ∈ logged.2.2, Service.GrantsBeyond n service e) ∧
      (checked.isOk = false →
        (∃ fault, fault ≠ .panicked ∧ applied = (.error fault, network)) ∧
          ∀ service request, prepare path content env {} = .ok (service, request) →
            (fulfil n service request network).calls = []) := by
  intro checked applied logged
  have haccepted : checked.isOk = true ↔ _ :=
    (isOk_validate n path content env network).trans Overview.exists_ofFile_iff
  -- a request that is prepared for a refused file has an unsound reference
  have hrefused : checked.isOk = false → ∀ service request,
      prepare path content env {} = .ok (service, request) →
        ∃ fault, request.checkReferences = .error fault := by
    intro hchecked service request hprepare
    obtain ⟨settings, hload, hservice, rfl⟩ := prepare_eq_ok_iff.mp hprepare
    cases hkeys : settings.request.checkReferences with
    | error fault => exact ⟨fault, rfl⟩
    | ok keys =>
      rw [haccepted.mpr ⟨settings, service, keys, hload, hservice, hkeys⟩] at hchecked
      cases hchecked
  refine ⟨haccepted.trans ⟨?_, ?_⟩, fun hchecked fault hfail hcalm => ?_,
    execute_apply_logged n {} network, execute_apply_panicked_iff n {} network,
    fun hchecked => ⟨?_, ?_⟩⟩
  · rintro ⟨settings, service, keys, hload, hservice, hkeys⟩
    exact ⟨settings, service, hload, hservice, fun τ d s fault =>
      Request.reference_ne_of_sound hkeys d s fault⟩
  · rintro ⟨settings, service, hload, hservice, hsound⟩
    cases hkeys : settings.request.checkReferences with
    | ok keys => exact ⟨settings, service, keys, hload, hservice, hkeys⟩
    | error fault =>
      -- an unsound reference shows on any directory
      refine absurd ?_ (hsound Script Script.directory {} fault)
      rw [Request.run_fulfil_of_unsound hkeys]
  · obtain ⟨settings, service, keys, hload, hservice, hkeys⟩ := haccepted.mp hchecked
    have hprepare := prepare_eq_ok_iff.mpr ⟨settings, hload, hservice, rfl⟩
    exact problem_of_apply n hprepare hkeys hfail hcalm
  · cases hprepare : prepare path content env {} with
    | error fault =>
      refine ⟨fault, ?_, ?_⟩
      · rintro rfl
        exact prepare_ne_panicked hprepare
      · show (apply path {}).execute n content env network = _
        rw [execute_apply, hprepare]
    | ok prepared =>
      obtain ⟨service, request⟩ := prepared
      obtain ⟨fault, hfault⟩ := hrefused hchecked service request hprepare
      exact ⟨_, fun h => (by cases h), execute_apply_of_unsound n hprepare hfault network⟩
  · intro service request hprepare
    obtain ⟨fault, hfault⟩ := hrefused hchecked service request hprepare
    unfold fulfil
    rw [Request.run_fulfil_of_unsound hfault]
    rfl

/-- It is not so that a validated file fails only where something is not found or the directory
fails: here the service grants a token for the largest count of seconds, and a panic ends the
process. -/
theorem exists_validated_panicked :
    ¬ ∀ (path : String) (content : FileContent) (env : Environment) (network : List Http.Response),
      ((validate path).execute Http.Network.scripted content env network).1.isOk = true →
        ∀ fault,
          ((apply path {}).execute Http.Network.scripted content env network).1 = .error fault →
            ∃ problem, fault = .run problem ∧
              (problem.isNotFound = true ∨ ∃ failure, problem = .directory failure) := by
  intro h
  let text := "connection: \x7bbase_url: \"http://[::1]\", auth_realm: a, auth_username: b, " ++
    "auth_password: c\x7d\nrequest: \x7bgroup: \x7bname: g\x7d\x7d"
  let body := "\x7b\"access_token\": \"a\", \"expires_in\": 18446744073709551615\x7d"
  have hfails := h "" (.ok (Text.Utf8.encode text)) [] [⟨200, Text.Utf8.encode body⟩]
    (by decide +kernel)
  have hexit : (Finish.of ((apply "" {}).execute Http.Network.scripted
      (.ok (Text.Utf8.encode text)) [] [⟨200, Text.Utf8.encode body⟩]).1).exit = 101 := by
    decide +kernel
  generalize ((apply "" {}).execute Http.Network.scripted (.ok (Text.Utf8.encode text)) []
    [⟨200, Text.Utf8.encode body⟩]).1 = result at hfails hexit
  cases result with
  | ok stdout => cases hexit
  | error fault =>
    obtain ⟨problem, rfl, -⟩ := hfails fault rfl
    cases hexit

end Command

end GroupRoles
