import GroupRoles.Command.Run
import GroupRoles.Proofs.Fulfil.Failures
import GroupRoles.Proofs.Service.Process

/-!
# What a command runs with

A command that applies settings loads them, reads the service of their connection, and then runs
their request. `Settings.load_eq_ok_iff` says which settings load, and `Command.prepare_eq_ok_iff`
what there is to run with; `Command.execute_apply` splits a command at this point. What the run
comes to is its result, unless a panic ended it: then there is no report
(`conclude_fulfil_eq_ok_iff`).
-/

namespace GroupRoles

section

variable {ε ε' α β : Type} {x : Except ε α}

/-- Steps in a row succeed exactly when each of them does. -/
theorem bind_eq_ok_iff {f : α → Except ε β} {b : β} :
    x >>= f = .ok b ↔ ∃ a, x = .ok a ∧ f a = .ok b := by
  cases x with
  | error e =>
    refine iff_of_false (fun h => by cases h) ?_
    rintro ⟨a, ⟨⟩, -⟩
  | ok a =>
    refine ⟨fun h => ⟨a, rfl, h⟩, ?_⟩
    rintro ⟨_, ⟨⟩, h⟩
    exact h

theorem mapError_eq_ok_iff {f : ε → ε'} {a : α} : x.mapError f = .ok a ↔ x = .ok a := by
  cases x with
  | error e => exact iff_of_false (fun h => by cases h) (fun h => by cases h)
  | ok _ => exact ⟨fun h => congrArg Except.ok (Except.ok.inj h), fun h => h ▸ rfl⟩

theorem bind_ne_error {f : α → Except ε β} {e : ε} (hx : x ≠ .error e)
    (hf : ∀ a, f a ≠ .error e) : x >>= f ≠ .error e := by
  cases x with
  | error e' => exact fun h => hx (congrArg Except.error (Except.error.inj h))
  | ok a => exact hf a

theorem mapError_ne_error {f : ε → ε'} {e' : ε'} (hf : ∀ e, f e ≠ e') :
    x.mapError f ≠ .error e' := by
  cases x with
  | error e => exact fun h => hf e (Except.error.inj h)
  | ok a => exact fun h => by cases h

end

variable {path : String} {content : FileContent} {env : Environment} {o : Overrides}

/-- Settings load when they are those of the file with the overrides in place, and can be used. -/
theorem Settings.load_eq_ok_iff {settings : Settings} :
    Settings.load path content env o = .ok settings ↔
      ∃ file, Settings.ofFile content = .ok file ∧
        settings = { file with request := o.apply file.request } ∧
        settings.check env = .ok () := by
  simp only [Settings.load, bind_eq_ok_iff, mapError_eq_ok_iff]
  constructor
  · rintro ⟨file, hfile, _, hcheck, he⟩
    cases he
    exact ⟨file, hfile, rfl, hcheck⟩
  · rintro ⟨file, hfile, rfl, hcheck⟩
    exact ⟨file, hfile, (), hcheck, rfl⟩

namespace Command

/-- The service and the request of a command that applies settings. -/
def prepare (path : String) (content : FileContent) (env : Environment) (o : Overrides) :
    Except CommandFault (Service × Request) := do
  let settings ← Settings.load path content env o
  let service ← (Service.ofConnection settings.connection env).mapError .client
  pure (service, settings.request)

theorem prepare_eq_ok_iff {service : Service} {request : Request} :
    prepare path content env o = .ok (service, request) ↔
      ∃ settings, Settings.load path content env o = .ok settings ∧
        Service.ofConnection settings.connection env = .ok service ∧
        settings.request = request := by
  simp only [prepare, bind_eq_ok_iff, mapError_eq_ok_iff]
  constructor
  · rintro ⟨settings, hload, _, hservice, he⟩
    cases he
    exact ⟨settings, hload, hservice, rfl⟩
  · rintro ⟨settings, hload, hservice, rfl⟩
    exact ⟨settings, hload, service, hservice, rfl⟩

/-- No panic comes before the run. -/
theorem prepare_ne_panicked : prepare path content env o ≠ .error .panicked := by
  have hload : Settings.load path content env o ≠ .error .panicked := by
    refine bind_ne_error (mapError_ne_error fun _ h => by cases h) fun file => ?_
    exact bind_ne_error (mapError_ne_error fun _ h => by cases h) fun _ h => by cases h
  refine bind_ne_error hload fun settings => ?_
  exact bind_ne_error (mapError_ne_error fun _ h => by cases h) fun _ h => by cases h

section

variable {σ : Type} {n : Http.Network σ} {service : Service} {request : Request} {network : σ}

/-- A run with a report has met no panic. -/
theorem calm_of_report {report : Report}
    (h : (fulfil n service request network).result = .ok report) :
    (fulfil n service request network).state.panicked = false := by
  have hheeds := request.heeds_fulfil _ _
    (Program.trace_run (Service.process n service) request.fulfil { session := { network } })
  rw [← Bool.not_eq_true]
  intro hpanicked
  rcases (Service.panicked_run _ _).mp hpanicked with hbefore | ⟨e, he, hreply⟩
  · cases hbefore
  · exact hheeds.1 (congrArg Except.isOk h) e he _ hreply

/-- A run that the directory ends has met the failure that it names, which is no panic if the
process goes on. -/
theorem ne_panic_of_calm {failure : Failure}
    (hcalm : (fulfil n service request network).state.panicked = false)
    (h : (fulfil n service request network).result = .error (.directory failure)) :
    failure ≠ .panic := by
  rintro rfl
  have hheeds := request.heeds_fulfil _ _
    (Program.trace_run (Service.process n service) request.fulfil { session := { network } })
  have hpanicked : (fulfil n service request network).state.panicked = true :=
    (Service.panicked_run _ _).mpr (.inr (hheeds.2 .panic h))
  rw [hcalm] at hpanicked
  cases hpanicked

theorem conclude_of_calm {outcome : Outcome (Service.Process σ) Report}
    (h : outcome.state.panicked = false) : conclude outcome = outcome.result.mapError .run :=
  if_neg (ne_true_of_eq_false h)

theorem conclude_eq_panicked_iff {outcome : Outcome (Service.Process σ) Report} :
    conclude outcome = .error .panicked ↔ outcome.state.panicked = true := by
  cases hpanicked : outcome.state.panicked with
  | true => exact iff_of_true (if_pos hpanicked) rfl
  | false =>
    refine iff_of_false (fun h => ?_) Bool.false_ne_true
    rw [conclude_of_calm hpanicked] at h
    cases hresult : outcome.result with
    | error problem =>
      rw [hresult] at h
      cases h
    | ok report =>
      rw [hresult] at h
      cases h

theorem conclude_congr {τ : Type} {outcome : Outcome (Service.Process σ) Report}
    {other : Outcome (Service.Process τ) Report} (hresult : outcome.result = other.result)
    (hpanicked : outcome.state.panicked = other.state.panicked) :
    conclude outcome = conclude other := by
  unfold conclude
  rw [hresult, hpanicked]

/-- A run comes to a report exactly if that is its result. -/
theorem conclude_fulfil_eq_ok_iff {report : Report} :
    conclude (fulfil n service request network) = .ok report ↔
      (fulfil n service request network).result = .ok report := by
  constructor
  · intro h
    cases hpanicked : (fulfil n service request network).state.panicked with
    | true =>
      rw [conclude_eq_panicked_iff.mpr hpanicked] at h
      cases h
    | false =>
      rw [conclude_of_calm hpanicked] at h
      exact mapError_eq_ok_iff.mp h
  · intro h
    rw [conclude_of_calm (calm_of_report h)]
    exact mapError_eq_ok_iff.mpr h

end

/-- A command that applies settings fails unless it is prepared, and otherwise runs the request. -/
theorem execute_apply {σ : Type} (n : Http.Network σ) (path : String) (content : FileContent)
    (env : Environment) (o : Overrides) (network : σ) :
    (apply path o).execute n content env network =
      match prepare path content env o with
      | .error fault => (.error fault, network)
      | .ok (service, request) =>
        ((conclude (fulfil n service request network)).map fun report =>
          (Report.shape.write report).prettyText ++ "\n",
        (fulfil n service request network).state.session.network) :=
  rfl

/-- A command that applies settings prints exactly the report of the run that they ask for. -/
theorem execute_apply_eq_ok_iff {σ : Type} (n : Http.Network σ) (network : σ) {stdout : String} :
    ((apply path o).execute n content env network).1 = .ok stdout ↔
      ∃ settings service report, Settings.load path content env o = .ok settings ∧
        Service.ofConnection settings.connection env = .ok service ∧
        (fulfil n service settings.request network).result = .ok report ∧
        stdout = (Report.shape.write report).prettyText ++ "\n" := by
  rw [execute_apply]
  cases hprepare : prepare path content env o with
  | error fault =>
    refine iff_of_false (fun h => by cases h) ?_
    rintro ⟨settings, service, report, hload, hservice, -, -⟩
    rw [prepare_eq_ok_iff.mpr ⟨settings, hload, hservice, rfl⟩] at hprepare
    cases hprepare
  | ok prepared =>
    obtain ⟨service, request⟩ := prepared
    obtain ⟨settings, hload, hservice, rfl⟩ := prepare_eq_ok_iff.mp hprepare
    dsimp only
    constructor
    · intro h
      cases hresult : conclude (fulfil n service settings.request network) with
      | error fault =>
        rw [hresult] at h
        cases h
      | ok report =>
        rw [hresult] at h
        exact ⟨settings, service, report, hload, hservice,
          conclude_fulfil_eq_ok_iff.mp hresult, (Except.ok.inj h).symm⟩
    · rintro ⟨settings', service', report, hload', hservice', hresult, rfl⟩
      rw [hload] at hload'
      cases hload'
      rw [hservice] at hservice'
      cases hservice'
      rw [conclude_fulfil_eq_ok_iff.mpr hresult]
      rfl

end Command

end GroupRoles
