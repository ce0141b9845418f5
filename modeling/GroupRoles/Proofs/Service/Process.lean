import GroupRoles.Proofs.Directory.Alike
import GroupRoles.Proofs.Service.Answer
import GroupRoles.Proofs.Service.Session
import GroupRoles.Service.Process

/-!
# Runs of a process that a panic can end

A process has panicked exactly when one of its calls met a panic (`panicked_run`), and until then it
runs as the directory behind the service does (`run_directory_of_calm`). A log of what was exchanged
tells whether it has: some answer granted a token whose expiry the clock cannot show
(`panicked_run_logged_iff`).
-/

namespace GroupRoles.Service

open Http

variable {σ τ ε α : Type}

/-! ## Panics among the calls -/

section

variable {n : Network σ} {s : Service} {p : Process σ}

theorem isPanic_eq_true_iff {c : Call} {reply : Reply c} :
    isPanic reply = true ↔ reply = .error .panic := by
  cases reply with
  | error failure => rw [isPanic, decide_eq_true_iff, Except.error.injEq]
  | ok answer => exact iff_of_false (fun h => by cases h) (fun h => by cases h)

theorem answer_of_panicked (h : p.panicked = true) (c : Call) :
    (process n s).answer c p = (.error .panic, p) :=
  if_pos h

theorem answer_of_calm (h : p.panicked = false) (c : Call) :
    (process n s).answer c p =
      (((directory n s).answer c p.session).1,
        ⟨((directory n s).answer c p.session).2,
          isPanic ((directory n s).answer c p.session).1⟩) :=
  if_neg (ne_true_of_eq_false h)

theorem panicked_answer (c : Call) (p : Process σ) :
    ((process n s).answer c p).2.panicked = true ↔
      p.panicked = true ∨ ((process n s).answer c p).1 = .error .panic := by
  cases hpanicked : p.panicked with
  | true =>
    rw [answer_of_panicked hpanicked]
    exact iff_of_true hpanicked (.inl rfl)
  | false =>
    rw [answer_of_calm hpanicked, or_iff_right Bool.false_ne_true]
    exact isPanic_eq_true_iff

theorem panicked_lookUp (realm : String) (queries : List RoleQuery) (p : Process σ) :
    ((process n s).lookUp realm queries p).2.panicked = true ↔
      p.panicked = true ∨ .error .panic ∈ ((process n s).lookUp realm queries p).1 := by
  induction queries generalizing p with
  | nil => exact (or_iff_left List.not_mem_nil).symm
  | cons q rest ih =>
    simp only [Directory.lookUp]
    rw [ih, panicked_answer, List.mem_cons, or_assoc, eq_comm (a := Except.error _)]

/-- A process has panicked after a run if it had before, or if a call of the run met a panic. -/
theorem panicked_run (program : Program α) (p : Process σ) :
    (program.run (process n s) p).state.panicked = true ↔
      p.panicked = true ∨
        ∃ e ∈ (program.run (process n s) p).events, e.reply = .error .panic := by
  induction program generalizing p with
  | done a | fail problem => exact (or_iff_left fun ⟨e, he, _⟩ => absurd he List.not_mem_nil).symm
  | ask c next ih =>
    have hanswer := panicked_answer (n := n) (s := s) c p
    simp only [Program.run]
    cases hreply : ((process n s).answer c p).1 with
    | error failure =>
      -- the run ends with this call
      rw [hreply] at hanswer
      simpa using hanswer
    | ok a =>
      rw [hreply, or_iff_left (fun h => by cases h)] at hanswer
      simp [Outcome.after, ih, hanswer]
  | gather realm queries next ih =>
    have hlookups : (∃ e ∈ Directory.lookUpEvents realm queries
          ((process n s).lookUp realm queries p).1, e.reply = .error .panic) ↔
        .error .panic ∈ ((process n s).lookUp realm queries p).1 :=
      Directory.exists_failed_lookUpEvents_iff ((process n s).length_lookUp realm queries p)
    simp only [Program.run, Outcome.after, ih, panicked_lookUp, List.mem_append, or_and_right,
      exists_or, hlookups, or_assoc]

/-- A process that has not panicked after a run had not before. -/
theorem calm_of_run {program : Program α}
    (h : (program.run (process n s) p).state.panicked = false) : p.panicked = false := by
  rw [← Bool.not_eq_true] at h ⊢
  exact fun hpanicked => h ((panicked_run program p).mpr (.inl hpanicked))

/-! ## Until a panic -/

/-- Lookups that meet no panic are those of the directory behind the service. -/
theorem lookUp_directory_of_calm {realm : String} {queries : List RoleQuery}
    (h : ((process n s).lookUp realm queries p).2.panicked = false) :
    (directory n s).lookUp realm queries p.session =
      (((process n s).lookUp realm queries p).1,
        ((process n s).lookUp realm queries p).2.session) := by
  induction queries generalizing p with
  | nil => rfl
  | cons q rest ih =>
    have hcalm : p.panicked = false := by
      rw [← Bool.not_eq_true] at h ⊢
      exact fun hpanicked => h ((panicked_lookUp realm _ p).mpr (.inl hpanicked))
    -- the first lookup is made by the directory, and the others go on from its session
    simp only [Directory.lookUp, answer_of_calm hcalm] at h ⊢
    rw [ih h]

/-- A run that meets no panic is one on the directory behind the service. -/
theorem run_directory_of_calm {program : Program α}
    (h : (program.run (process n s) p).state.panicked = false) :
    program.run (directory n s) p.session =
      ⟨(program.run (process n s) p).result, (program.run (process n s) p).events,
        (program.run (process n s) p).state.session⟩ := by
  induction program generalizing p with
  | done a | fail problem => rfl
  | ask c next ih =>
    have hcalm := calm_of_run h
    simp only [Program.run, answer_of_calm hcalm] at h ⊢
    cases hreply : ((directory n s).answer c p.session).1 with
    | error failure => rfl
    | ok a =>
      rw [hreply] at h
      exact congrArg (Outcome.after _) (ih a h)
  | gather realm queries next ih =>
    simp only [Program.run] at h ⊢
    have hlookups : ((process n s).lookUp realm queries p).2.panicked = false := calm_of_run h
    rw [lookUp_directory_of_calm hlookups]
    exact congrArg (Outcome.after _) (ih _ h)

end

/-! ## Processes on two networks -/

/-- Processes in sessions that are alike. -/
structure Process.Alike (R : σ → τ → Prop) (p : Process σ) (q : Process τ) : Prop where
  session : Session.Alike R p.session q.session
  panicked : p.panicked = q.panicked

/-- Processes that call a service over networks that are alike. -/
theorem process_alike {R : σ → τ → Prop} {allowed : Http.Request → Prop} {n : Network σ}
    {m : Network τ} (h : Network.Alike R allowed n m) (s : Service) :
    Directory.Alike (Process.Alike R) (fun c => ∀ r, s.MaySend c r → allowed r) (process n s)
      (process m s) := by
  intro c p q hc hpq
  cases hpanicked : q.panicked with
  | true =>
    rw [answer_of_panicked hpanicked, answer_of_panicked (hpq.panicked.trans hpanicked)]
    exact ⟨rfl, hpq⟩
  | false =>
    rw [answer_of_calm hpanicked, answer_of_calm (hpq.panicked.trans hpanicked)]
    obtain ⟨hreply, hsession⟩ := directory_alike h s c p.session q.session hc hpq.session
    exact ⟨hreply, hsession, congrArg isPanic hreply⟩

/-! ## Panics and what is exchanged -/

/-- An exchange that grants a token whose expiry the clock cannot show. -/
def GrantsBeyond (n : Network σ) (s : Service) (e : Exchange σ) : Prop :=
  ∃ grant response g, s.credentials = .password grant ∧ e.request = s.grantRequest grant ∧
    e.answer = .ok response ∧ response.isSuccess = true ∧
    decode Granted.shape response.body = .ok g ∧
    maxSeconds < (n.now (n.send e.request e.before).2).1 / second + g.lifetime

section

variable {n : Network σ} {s : Service} {grant : PasswordGrant}

theorem grantedBy_ne_beyondClock (answer : Except TransportFault Response) :
    s.grantedBy answer ≠ .error .beyondClock := by
  intro h
  cases answer with
  | error fault => cases h
  | ok response =>
    change s.granted response = _ at h
    unfold granted at h
    split at h
    · cases hbody : decode Granted.shape response.body with
      | error fault =>
        rw [hbody] at h
        cases h
      | ok g =>
        rw [hbody] at h
        cases h
    · cases h

/-- Where a token is asked for, what the answer grants decides. -/
theorem grantsBeyond_exchange_iff (hs : s.credentials = .password grant) (state : σ) :
    GrantsBeyond n s (n.exchange (s.grantRequest grant) state) ↔
      ∃ g, s.grantedBy (n.send (s.grantRequest grant) state).1 = .ok g ∧
        maxSeconds < (n.now (n.send (s.grantRequest grant) state).2).1 / second + g.lifetime := by
  constructor
  · rintro ⟨_, response, g, -, -, hanswer, hsuccess, hbody, hbeyond⟩
    exact ⟨g, grantedBy_eq_ok_iff.mpr ⟨response, hanswer, hsuccess, hbody⟩, hbeyond⟩
  · rintro ⟨g, hgranted, hbeyond⟩
    obtain ⟨response, hanswer, hsuccess, hbody⟩ := grantedBy_eq_ok_iff.mp hgranted
    exact ⟨grant, response, g, hs, rfl, hanswer, hsuccess, hbody, hbeyond⟩

theorem not_grantsBeyond_callRequest (bearer : String) (c : Call) (state : σ) :
    ¬ GrantsBeyond n s (n.exchange (s.callRequest bearer c) state) := by
  rintro ⟨grant, -, -, -, hrequest, -⟩
  exact callRequest_ne_grantRequest s grant bearer c hrequest

theorem exists_run_look_logged (n : Network σ) (a : Session σ) (log : List (Exchange σ)) :
    ∃ text, ∃ a' : Session σ,
      (look n.logged : Step _ ε _).run.run (a.logged log) = (.ok text, a'.logged log) := by
  cases hkept : a.kept with
  | none => exact ⟨none, a, run_look_of_none n.logged hkept⟩
  | some kept => exact ⟨_, a.tick n, run_look_of_some n.logged hkept⟩

/-- Asking for a token is a panic exactly if the answer grants one beyond the clock. -/
theorem Renewal.panics_iff (hs : s.credentials = .password grant) {b a' : Session σ}
    {result : Except ServiceFault String} (h : Renewal n s grant b result a') :
    result = .error .beyondClock ↔
      GrantsBeyond n s (n.exchange (s.grantRequest grant) b.network) := by
  rw [grantsBeyond_exchange_iff hs]
  cases h with
  | refused hrefused =>
    rw [hrefused]
    refine iff_of_false (fun h => ?_) (fun ⟨_, h, _⟩ => by cases h)
    rw [Except.error.inj h] at hrefused
    exact grantedBy_ne_beyondClock _ hrefused
  | granted hgranted hshown =>
    refine iff_of_false (fun h => by cases h) ?_
    rintro ⟨g, hg, hbeyond⟩
    rw [hgranted] at hg
    cases hg
    exact Nat.not_lt.mpr hshown hbeyond
  | beyond hgranted hbeyond => exact iff_of_true rfl ⟨_, hgranted, hbeyond⟩

theorem run_token_panics (a : Session σ) (log : List (Exchange σ)) :
    ∃ es result, ∃ a' : Session σ,
      (token n.logged s).run.run (a.logged log) = (result, a'.logged (log ++ es)) ∧
      (result = .error .beyondClock ↔ ∃ e ∈ es, GrantsBeyond n s e) := by
  have hnothing : ∀ text : String, (.ok text : Except ServiceFault String) = .error .beyondClock ↔
      ∃ e ∈ ([] : List (Exchange σ)), GrantsBeyond n s e :=
    fun text => iff_of_false (fun h => by cases h) (fun ⟨_, h, _⟩ => absurd h List.not_mem_nil)
  cases hs : s.credentials with
  | token text =>
    refine ⟨[], .ok text, a, ?_, hnothing text⟩
    rw [run_token_of_given hs, List.append_nil]
  | password grant =>
    -- a token that is still fresh at the first or the second look is used
    obtain ⟨first, a₁, hfirst⟩ := exists_run_look_logged (ε := ServiceFault) n a log
    obtain ⟨second, a₂, hsecond⟩ := exists_run_look_logged (ε := ServiceFault) n a₁ log
    unfold token
    rw [hs, Step.run_bind, hfirst]
    cases first with
    | some text =>
      refine ⟨[], .ok text, a₁, ?_, hnothing text⟩
      rw [List.append_nil]
      rfl
    | none =>
      dsimp only
      rw [Step.run_bind, hsecond]
      cases second with
      | some text =>
        refine ⟨[], .ok text, a₂, ?_, hnothing text⟩
        rw [List.append_nil]
        rfl
      | none =>
        obtain ⟨result, a', hrun, hrenewal⟩ := run_renew_logged n s grant a₂ log
        refine ⟨_, result, a', hrun, (hrenewal.panics_iff hs).trans ?_⟩
        simp only [List.mem_singleton, exists_eq_left]

/-- What is made of an answer from the network is no panic. -/
theorem replyOf_ne_panic (c : Call) (answer : Except TransportFault Response) :
    s.replyOf c answer ≠ .error .panic := by
  intro h
  cases answer with
  | error fault => cases congrArg Failure.cause (Except.error.inj h)
  | ok response =>
    have hreply : s.replyTo c response = .error .panic := h
    rcases replyTo_eq_error hreply with ⟨fault, hcause⟩ | ⟨-, hrefusal⟩
    · cases hcause
    · cases congrArg Failure.cause hrefusal

theorem run_perform_panics (c : Call) (a : Session σ) (log : List (Exchange σ)) :
    ∃ es reply, ∃ a' : Session σ,
      (perform n.logged s c).run.run (a.logged log) = (reply, a'.logged (log ++ es)) ∧
      (reply = .error .panic ↔ ∃ e ∈ es, GrantsBeyond n s e) := by
  obtain ⟨es, result, a', hrun, hpanics⟩ := run_token_panics (n := n) (s := s) a log
  cases result with
  | error fault =>
    refine ⟨es, _, a', perform_of_refused c hrun, ?_⟩
    rw [← hpanics, Except.error.injEq, Except.error.injEq]
    constructor
    · intro h
      cases h
      rfl
    · rintro rfl
      rfl
  | ok bearer =>
    -- with a token in hand no panic is left: the request of the call itself grants nothing
    have hquiet : ¬ ∃ e ∈ es, GrantsBeyond n s e := fun h => by cases hpanics.mpr h
    have hperform := perform_of_token c hrun
    cases hsendable : (s.callRequest bearer c).sendable with
    | false =>
      rw [hsendable, if_neg Bool.false_ne_true] at hperform
      exact ⟨es, _, a', hperform, iff_of_false (replyOf_ne_panic c _) hquiet⟩
    | true =>
      rw [hsendable, if_pos rfl] at hperform
      refine ⟨es ++ [n.exchange (s.callRequest bearer c) a'.network],
        s.replyOf c (n.send (s.callRequest bearer c) a'.network).1,
        ⟨(n.send (s.callRequest bearer c) a'.network).2,
          keptAfter a'.kept (n.send (s.callRequest bearer c) a'.network).1⟩, ?_,
        iff_of_false (replyOf_ne_panic c _) ?_⟩
      · rw [hperform, ← List.append_assoc]
        rfl
      · rintro ⟨e, he, hbeyond⟩
        rcases List.mem_append.mp he with he | he
        · exact hquiet ⟨e, he, hbeyond⟩
        · rw [List.mem_singleton.mp he] at hbeyond
          exact not_grantsBeyond_callRequest bearer c _ hbeyond

/-- A process that keeps a log has panicked after a run exactly if some exchange in the log granted
a token beyond the clock. -/
theorem panicked_run_logged_iff (n : Network σ) (s : Service) (program : Program α) (network : σ) :
    let last := (program.run (process n.logged s) { session := { network := (network, []) } }).state
    last.panicked = true ↔ ∃ e ∈ last.session.network.2, GrantsBeyond n s e := by
  -- every call keeps this, so that a run does
  refine Program.run_keeps (I := fun p : Process (σ × List (Exchange σ)) =>
    p.panicked = true ↔ ∃ e ∈ p.session.network.2, GrantsBeyond n s e) ?_ program ?_
  · rintro c ⟨⟨⟨network, log⟩, kept⟩, panicked⟩ h
    cases panicked with
    | true => exact h
    | false =>
      have hlog : ¬ ∃ e ∈ log, GrantsBeyond n s e := fun hbeyond => by cases h.mpr hbeyond
      obtain ⟨es, reply, a', hrun, hpanics⟩ := run_perform_panics c ⟨network, kept⟩ log
      rw [answer_of_calm rfl]
      have hanswer : (directory n.logged s).answer c ⟨(network, log), kept⟩ =
          (reply, a'.logged (log ++ es)) := hrun
      dsimp only
      rw [hanswer]
      dsimp only
      rw [isPanic_eq_true_iff, hpanics]
      simp only [Session.logged, List.mem_append, or_and_right, exists_or]
      exact (or_iff_right hlog).symm
  · exact iff_of_false Bool.false_ne_true fun ⟨e, he, _⟩ => absurd he List.not_mem_nil

end

end GroupRoles.Service
