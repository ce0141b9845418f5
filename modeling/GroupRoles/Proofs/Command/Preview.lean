import GroupRoles.Proofs.Command.Load
import GroupRoles.Proofs.Command.Words
import GroupRoles.Proofs.Fulfil.Preview
import GroupRoles.Proofs.Service.Alike

/-!
# Commands that only preview

`plan`, `apply` with `--check` and `apply` of settings with a dry run send nothing that changes a
mapping. The requests are read off a network that keeps a list of them, on which a command ends as
it does without the list.
-/

namespace GroupRoles

open Http

/-! ## Arguments and settings of a dry run -/

namespace Args

variable {rest : List String} {path : String} {o : Overrides}

theorem dryRun_of_plan (h : command "plan" rest = some (.command (.apply path o))) :
    o.dryRun = true := by
  unfold command at h
  rw [if_neg (by decide), if_pos rfl] at h
  obtain ⟨given, -, hasked⟩ := Option.map_eq_some_iff.mp h
  obtain ⟨-, he⟩ := asked_eq_command_iff.mp hasked
  cases he
  rfl

theorem dryRun_of_check (h : command "apply" rest = some (.command (.apply path o)))
    (hcheck : "--check" ∈ rest) : o.dryRun = true := by
  unfold command at h
  rw [if_pos rfl] at h
  obtain ⟨given, hgiven, hasked⟩ := Option.map_eq_some_iff.mp h
  obtain ⟨hhelp, he⟩ := asked_eq_command_iff.mp hasked
  cases he
  exact has_of_options (o := .check) hgiven hhelp (.inr hcheck)

end Args

namespace Invocation

/-- Arguments of a command that only previews, where `read` gives the file of a path. -/
inductive Previews (read : String → FileContent) (args : List String) : Prop where
  | plan {rest : List String} (h : Args.Names "plan" rest args)
  | check {rest : List String} (h : Args.Names "apply" rest args) (hcheck : "--check" ∈ rest)
  | file {path : String} {o : Overrides} {file : Settings}
    (h : Invocation.ofArgs? args = some (.command (.apply path o)))
    (hfile : Settings.ofFile (read path) = .ok file) (hdry : file.request.dryRun = true)

/-- A command that only previews runs a request dry. -/
theorem Previews.dryRun {read : String → FileContent} {args : List String}
    (h : Previews read args) {path : String} {o : Overrides}
    (hargs : Invocation.ofArgs? args = some (.command (.apply path o))) {env : Environment}
    {settings : Settings} (hload : Settings.load path (read path) env o = .ok settings) :
    settings.request.dryRun = true := by
  obtain ⟨file, hfile, rfl, -⟩ := Settings.load_eq_ok_iff.mp hload
  change (file.request.dryRun || o.dryRun) = true
  cases h with
  | plan hnames =>
    rw [Args.dryRun_of_plan (Args.command_of_read hnames (by decide) hargs), Bool.or_true]
  | check hnames hcheck =>
    rw [Args.dryRun_of_check (Args.command_of_read hnames (by decide) hargs) hcheck, Bool.or_true]
  | @file path' o' file' h hfile' hdry =>
    rw [hargs] at h
    cases h
    rw [hfile] at hfile'
    cases hfile'
    rw [hdry, Bool.true_or]

end Invocation

/-! ## Requests of a dry run -/

namespace Service

/-- The requests that calls may lead to which change nothing. -/
def Reads (s : Service) (r : Http.Request) : Prop :=
  ∃ c : Call, c.isChange = false ∧ s.MaySend c r

/-- Such a request reads from the URL of a call, or asks for a token. -/
theorem of_reads {s : Service} {r : Http.Request} (h : s.Reads r) :
    (r.method = .get ∧ r.body = .none ∧ ∃ c : Call, c.isChange = false ∧ r.url = s.callUrl c) ∨
      ∃ grant, s.credentials = .password grant ∧ r.method = .post ∧
        r.url = s.base.extend ["realms", grant.realm, "protocol", "openid-connect", "token"] ∧
        r.bearer = none ∧
        r.body = .form ([("grant_type", "password"), ("client_id", grant.clientId),
          ("username", grant.username), ("password", grant.password)] ++
          (grant.clientSecret.map fun secret => ("client_secret", secret)).toList) := by
  obtain ⟨c, hc, hsend⟩ := h
  cases hsend with
  | @grant grant hs =>
    have hurl : s.tokenUrl =
        s.base.extend ["realms", grant.realm, "protocol", "openid-connect", "token"] := by
      rw [tokenUrl, hs]
      rfl
    exact .inr ⟨grant, hs, rfl, hurl, rfl, rfl⟩
  | call bearer =>
    rw [callRequest_of_not_isChange s bearer hc]
    exact .inl ⟨rfl, rfl, c, hc, rfl⟩

theorem body_ne_of_reads {s : Service} {r : Http.Request} (h : s.Reads r) (roles : List Role) :
    r.body ≠ rolesBody roles := by
  rcases of_reads h with ⟨-, hbody, -⟩ | ⟨grant, -, -, -, -, hbody⟩
  · rw [hbody]
    exact Body.noConfusion
  · rw [hbody]
    exact Body.noConfusion

end Service

namespace Command

variable {σ : Type} (n : Network σ)

/-- With and without a list of its requests a dry run ends alike, and what it sends only reads. -/
theorem fulfil_recorded (service : Service) {request : Request} (h : request.dryRun = true)
    (network : σ) :
    (fulfil n service request network).Alike (Service.Process.Alike (Recorded service.Reads))
      (fulfil n.recorded service request (network, [])) := by
  have hreads : request.fulfil.MakesOnly fun c => ∀ r, service.MaySend c r → service.Reads r :=
    (Request.readOnly_fulfil h).mono fun c hc r hr => ⟨c, hc, hr⟩
  have halike := Service.process_alike (n.alike_recorded service.Reads) service
  exact Program.run_alike halike hreads
    ⟨⟨⟨rfl, fun _ hr => absurd hr List.not_mem_nil⟩, rfl⟩, rfl⟩

/-- A command whose requests run dry ends alike with and without a list of what it sends, and sends
only what reads from the service of its settings. -/
theorem execute_recorded (content : FileContent) (env : Environment) (c : Command) (network : σ)
    (hdry : ∀ path o settings, c = .apply path o →
      Settings.load path content env o = .ok settings → settings.request.dryRun = true) :
    (c.execute n.recorded content env (network, [])).1 = (c.execute n content env network).1 ∧
      Recorded (fun r => ∃ path o settings service, c = .apply path o ∧
          Settings.load path content env o = .ok settings ∧
          Service.ofConnection settings.connection env = .ok service ∧ service.Reads r)
        (c.execute n content env network).2
        (c.execute n.recorded content env (network, [])).2 := by
  have hnil : ∀ {allowed : Http.Request → Prop}, Recorded allowed network (network, []) :=
    ⟨rfl, fun _ hr => absurd hr List.not_mem_nil⟩
  cases c with
  | validate path => exact ⟨rfl, hnil⟩
  | apply path o =>
    rw [execute_apply, execute_apply]
    -- nothing is sent before there is a service and a request
    cases hprepare : prepare path content env o with
    | error fault => exact ⟨rfl, hnil⟩
    | ok prepared =>
      obtain ⟨service, request⟩ := prepared
      obtain ⟨settings, hload, hservice, rfl⟩ := prepare_eq_ok_iff.mp hprepare
      have h := fulfil_recorded n service (hdry path o settings rfl hload) network
      obtain ⟨hstate, hlist⟩ := h.state.session.network
      refine ⟨?_, hstate, fun r hr => ⟨path, o, settings, service, rfl, hload, hservice, ?_⟩⟩
      · dsimp only
        rw [conclude_congr h.result h.state.panicked]
      · exact hlist r hr

end Command

namespace Invocation

variable {σ : Type} (n : Network σ)

theorem finish_recorded (read : String → FileContent) (env : Environment) (i : Option Invocation)
    (network : σ)
    (hdry : ∀ path o settings, i = some (.command (.apply path o)) →
      Settings.load path (read path) env o = .ok settings → settings.request.dryRun = true) :
    (finish n.recorded read env i (network, [])).1 = (finish n read env i network).1 ∧
      Recorded (fun r => ∃ path o settings service, i = some (.command (.apply path o)) ∧
          Settings.load path (read path) env o = .ok settings ∧
          Service.ofConnection settings.connection env = .ok service ∧ service.Reads r)
        (finish n read env i network).2 (finish n.recorded read env i (network, [])).2 := by
  match i with
  | none => exact ⟨rfl, rfl, fun _ hr => absurd hr List.not_mem_nil⟩
  | some .version => exact ⟨rfl, rfl, fun _ hr => absurd hr List.not_mem_nil⟩
  | some .help => exact ⟨rfl, rfl, fun _ hr => absurd hr List.not_mem_nil⟩
  | some (.command c) =>
    obtain ⟨hresult, hnetwork, hlist⟩ := c.execute_recorded n (read c.path) env network (by
      rintro path o settings rfl hload
      exact hdry path o settings rfl hload)
    refine ⟨congrArg Finish.of hresult, hnetwork, fun r hr => ?_⟩
    obtain ⟨path, o, settings, service, rfl, hload, hservice, hreads⟩ := hlist r hr
    exact ⟨path, o, settings, service, rfl, hload, hservice, hreads⟩

/-- What a command that only previews sends, whatever the network does. It ends as it does without
the list of its requests. Each of them reads from the URL of a call that changes nothing, or posts
the form of the password grant to the URL of the realm that grants tokens; none has roles for its
body. -/
theorem preview_sends (read : String → FileContent) (env : Environment) (args : List String)
    (network : σ) (h : Previews read args) :
    let run := Invocation.finish n.recorded read env (Invocation.ofArgs? args) (network, [])
    (run.1, run.2.1) = Invocation.finish n read env (Invocation.ofArgs? args) network ∧
      ∀ r ∈ run.2.2, ∃ path o settings service,
        Invocation.ofArgs? args = some (.command (.apply path o)) ∧
          Settings.load path (read path) env o = .ok settings ∧
          Service.ofConnection settings.connection env = .ok service ∧
          ((r.method = .get ∧ r.body = .none ∧
              ∃ c : Call, c.isChange = false ∧ r.url = service.callUrl c) ∨
            ∃ grant, service.credentials = .password grant ∧ r.method = .post ∧
              r.url = service.base.extend
                ["realms", grant.realm, "protocol", "openid-connect", "token"] ∧
              r.bearer = none ∧
              r.body = .form ([("grant_type", "password"), ("client_id", grant.clientId),
                ("username", grant.username), ("password", grant.password)] ++
                (grant.clientSecret.map fun secret => ("client_secret", secret)).toList)) ∧
          ∀ roles, r.body ≠ Service.rolesBody roles := by
  intro run
  obtain ⟨hfinish, hnetwork, hlist⟩ := finish_recorded n read env (Invocation.ofArgs? args) network
    fun path o settings hargs hload => h.dryRun hargs hload
  refine ⟨Prod.ext hfinish hnetwork, fun r hr => ?_⟩
  obtain ⟨path, o, settings, service, hargs, hload, hservice, hreads⟩ := hlist r hr
  exact ⟨path, o, settings, service, hargs, hload, hservice, Service.of_reads hreads,
    Service.body_ne_of_reads hreads⟩

/-- A plan for a password: one request for a token, and four that read. -/
theorem preview_sends_plan :
    let text := "connection: \x7bbase_url: \"http://[::1]\", auth_realm: a, auth_username: b, " ++
      "auth_password: c\x7d\nrequest: \x7bgroup: \x7bname: g\x7d, roles: [\x7bname: r\x7d]\x7d"
    let read := fun _ : String => (.ok (Text.Utf8.encode text) : FileContent)
    let bodies := ["\x7b\"access_token\": \"t\"\x7d", "[\x7b\"id\": \"g1\", \"name\": \"g\"\x7d]",
      "\x7b\"id\": \"r1\", \"name\": \"r\"\x7d", "[\x7b\"id\": \"r1\", \"name\": \"r\"\x7d]", "[]"]
    let replies : List Response := bodies.map fun body => ⟨200, Text.Utf8.encode body⟩
    ∃ run, Invocation.finish Network.scripted.recorded read [] (Invocation.ofArgs? ["plan"])
        (replies, []) = run ∧
      run.1.exit = 0 ∧ run.2.2.map (·.method) = [.post, .get, .get, .get, .get] ∧
      ∀ r ∈ run.2.2, ∀ roles, r.body ≠ Service.rolesBody roles := by
  intro text read bodies replies
  have hrun :
      let run := Invocation.finish Network.scripted.recorded read [] (Invocation.ofArgs? ["plan"])
        (replies, [])
      run.1.exit = 0 ∧ run.2.2.map (·.method) = [.post, .get, .get, .get, .get] := by
    decide +kernel
  have hsends := preview_sends Network.scripted read [] ["plan"] replies (.plan .here)
  dsimp only at hrun hsends
  -- the run itself is not looked into again
  generalize Invocation.finish Network.scripted.recorded read [] (Invocation.ofArgs? ["plan"])
    (replies, []) = run at hrun hsends ⊢
  refine ⟨run, rfl, hrun.1, hrun.2, fun r hr => ?_⟩
  obtain ⟨-, -, -, -, -, -, -, -, hbody⟩ := hsends.2 r hr
  exact hbody

end Invocation

end GroupRoles
