import GroupRoles.Proofs.Service.Token

/-!
# What a call exchanges

`CallCourse` says in which ways a call can go: which requests it sends with which answers, what it
replies, and how it leaves its session. A call goes one of these ways on every network whose clock
goes forward (`turn_course`); the exchanges are those of the log that such a network can keep beside
what it does (`Network.logged`).
-/

namespace GroupRoles

namespace Http

variable {σ : Type}

/-- A request with its answer, and the state of the network before it. -/
structure Exchange (σ : Type) where
  before : σ
  request : Request
  answer : Except TransportFault Response

namespace Network

/-- The exchange of a request that is sent in a state. -/
def exchange (n : Network σ) (r : Request) (a : σ) : Exchange σ :=
  ⟨a, r, (n.send r a).1⟩

/-- A network that also keeps a log of its exchanges. -/
def logged (n : Network σ) : Network (σ × List (Exchange σ)) where
  now s := ((n.now s.1).1, ((n.now s.1).2, s.2))
  send r s := ((n.send r s.1).1, ((n.send r s.1).2, s.2 ++ [n.exchange r s.1]))

/-- Keeping a log changes nothing. -/
theorem alike_logged (n : Network σ) :
    Network.Alike (fun s t => t.1 = s) (fun _ => True) n n.logged where
  now := by
    rintro _ ⟨s, log⟩ rfl
    exact ⟨rfl, rfl⟩
  send := by
    rintro r _ ⟨s, log⟩ - rfl
    exact ⟨rfl, rfl⟩

theorem Forward.logged {n : Network σ} (h : n.Forward) : n.logged.Forward :=
  fun s => h s.1

end Network

end Http

namespace Service

open Http

variable {σ : Type}

/-! ## The ways of a call -/

/-- What an exchange granted, if its answer grants a token. -/
def grantedIn (s : Service) (e : Exchange σ) : Option Granted :=
  (s.grantedBy e.answer).toOption

/-- The ways to a token from a session: what is exchanged, the text of the token or why there is
none, and the session afterwards. -/
inductive TokenCourse (n : Network σ) (s : Service) (a : Session σ) :
    Credentials → List (Exchange σ) → Except ServiceFault String → Session σ → Prop where
  | given {text : String} : TokenCourse n s a (.token text) [] (.ok text) a
  | held {grant : PasswordGrant} {kept : Token} (hkept : a.kept = some kept)
      (hfresh : (n.now a.network).1 + grace < kept.expiry) :
      TokenCourse n s a (.password grant) [] (.ok kept.text) (a.tick n)
  | refused {grant : PasswordGrant} {state network : σ} {fault : ServiceFault}
      (hneeds : a.NeedsGrant (n.now a.network).1)
      (hnone : s.grantedIn (n.exchange (s.grantRequest grant) state) = none) :
      TokenCourse n s a (.password grant) [n.exchange (s.grantRequest grant) state] (.error fault)
        { a with network }
  | granted {grant : PasswordGrant} {state network : σ} {g : Granted}
      (hneeds : a.NeedsGrant (n.now a.network).1)
      (hgranted : s.grantedIn (n.exchange (s.grantRequest grant) state) = some g) :
      TokenCourse n s a (.password grant) [n.exchange (s.grantRequest grant) state] (.ok g.token)
        ⟨network, some ⟨g.token,
          (n.now (n.send (s.grantRequest grant) state).2).1 + g.lifetime * second⟩⟩
  | beyond {grant : PasswordGrant} {state network : σ} {g : Granted}
      (hneeds : a.NeedsGrant (n.now a.network).1)
      (hgranted : s.grantedIn (n.exchange (s.grantRequest grant) state) = some g)
      (hbeyond : maxSeconds <
        (n.now (n.send (s.grantRequest grant) state).2).1 / second + g.lifetime) :
      TokenCourse n s a (.password grant) [n.exchange (s.grantRequest grant) state]
        (.error .beyondClock) { a with network }

/-- The ways of a call from a session: what is exchanged, the reply, and the session afterwards. -/
inductive CallCourse (n : Network σ) (s : Service) (a : Session σ) (c : Call) :
    List (Exchange σ) → Reply c → Session σ → Prop where
  | refused {es : List (Exchange σ)} {fault : ServiceFault} {a' : Session σ}
      (htoken : TokenCourse n s a s.credentials es (.error fault) a') :
      CallCourse n s a c es (.error { cause := .service fault }) a'
  | unsendable {es : List (Exchange σ)} {bearer : String} {a' : Session σ}
      (htoken : TokenCourse n s a s.credentials es (.ok bearer) a')
      (hno : (s.callRequest bearer c).sendable = false) :
      CallCourse n s a c es (s.replyOf c (.error .unsendable)) a'
  | answered {es : List (Exchange σ)} {bearer : String} {a' : Session σ}
      (htoken : TokenCourse n s a s.credentials es (.ok bearer) a')
      (hsendable : (s.callRequest bearer c).sendable = true) :
      CallCourse n s a c (es ++ [n.exchange (s.callRequest bearer c) a'.network])
        (s.replyOf c (n.send (s.callRequest bearer c) a'.network).1)
        ⟨(n.send (s.callRequest bearer c) a'.network).2,
          keptAfter a'.kept (n.send (s.callRequest bearer c) a'.network).1⟩

/-! ## Every call goes one of these ways -/

/-- A session whose network keeps a log. -/
def Session.logged (a : Session σ) (log : List (Exchange σ)) : Session (σ × List (Exchange σ)) :=
  ⟨(a.network, log), a.kept⟩

theorem looked_logged (n : Network σ) (a : Session σ) (log : List (Exchange σ)) :
    (a.logged log).looked n.logged = (a.looked n).logged log := by
  obtain ⟨network, kept⟩ := a
  cases kept <;> rfl

theorem kept_looked (n : Network σ) (a : Session σ) : (a.looked n).kept = a.kept := by
  unfold Session.looked
  split <;> rfl

section

variable {n : Network σ} {s : Service} {grant : PasswordGrant} {a b : Session σ}

/-- The ways in which a request for a token ends, by its answer: the text of the token or why there
is none, and the session afterwards. -/
inductive Renewal (n : Network σ) (s : Service) (grant : PasswordGrant) (b : Session σ) :
    Except ServiceFault String → Session σ → Prop where
  | refused {network : σ} {fault : ServiceFault}
      (hrefused : s.grantedBy (n.send (s.grantRequest grant) b.network).1 = .error fault) :
      Renewal n s grant b (.error fault) { b with network }
  | granted {network : σ} {g : Granted}
      (hgranted : s.grantedBy (n.send (s.grantRequest grant) b.network).1 = .ok g)
      (hshown : (n.now (n.send (s.grantRequest grant) b.network).2).1 / second + g.lifetime ≤
        maxSeconds) :
      Renewal n s grant b (.ok g.token) ⟨network, some ⟨g.token,
        (n.now (n.send (s.grantRequest grant) b.network).2).1 + g.lifetime * second⟩⟩
  | beyond {network : σ} {g : Granted}
      (hgranted : s.grantedBy (n.send (s.grantRequest grant) b.network).1 = .ok g)
      (hbeyond : maxSeconds <
        (n.now (n.send (s.grantRequest grant) b.network).2).1 / second + g.lifetime) :
      Renewal n s grant b (.error .beyondClock) { b with network }

/-- Asking for a token is one exchange, whatever its answer. -/
theorem run_renew_logged (n : Network σ) (s : Service) (grant : PasswordGrant) (b : Session σ)
    (log : List (Exchange σ)) :
    ∃ result a', (ask n.logged s grant >>= store n.logged).run.run (b.logged log) =
        (result, a'.logged (log ++ [n.exchange (s.grantRequest grant) b.network])) ∧
      Renewal n s grant b result a' := by
  have hask : (ask n.logged s grant).run.run (b.logged log) =
      (s.grantedBy (n.send (s.grantRequest grant) b.network).1,
        (⟨(n.send (s.grantRequest grant) b.network).2, b.kept⟩ : Session σ).logged
          (log ++ [n.exchange (s.grantRequest grant) b.network])) := run_ask n.logged s grant _
  rw [Step.run_bind, hask]
  cases hgranted : s.grantedBy (n.send (s.grantRequest grant) b.network).1 with
  | error fault => exact ⟨_, _, rfl, .refused hgranted⟩
  | ok g =>
    have hclock : (n.logged.now (Session.logged ⟨(n.send (s.grantRequest grant) b.network).2,
        b.kept⟩ (log ++ [n.exchange (s.grantRequest grant) b.network])).network).1 =
          (n.now (n.send (s.grantRequest grant) b.network).2).1 := rfl
    dsimp only
    rw [run_store, hclock]
    -- a granted token is kept as far as the clock can show its expiry
    rcases Nat.lt_or_ge maxSeconds
      ((n.now (n.send (s.grantRequest grant) b.network).2).1 / second + g.lifetime) with hlt | hle
    · rw [Granted.keep_of_lt hlt]
      exact ⟨_, ⟨(n.now (n.send (s.grantRequest grant) b.network).2).2, b.kept⟩, rfl,
        .beyond hgranted hlt⟩
    · rw [Granted.keep_of_le hle]
      exact ⟨_, ⟨(n.now (n.send (s.grantRequest grant) b.network).2).2, some _⟩, rfl,
        .granted hgranted hle⟩

/-- A request for a token is a course of a session that needs one. -/
theorem Renewal.course (hneeds : a.NeedsGrant (n.now a.network).1) (hkept : b.kept = a.kept)
    {result : Except ServiceFault String} {a' : Session σ} (h : Renewal n s grant b result a') :
    TokenCourse n s a (.password grant) [n.exchange (s.grantRequest grant) b.network] result
      a' := by
  cases h with
  | refused hrefused =>
    rw [hkept]
    exact .refused hneeds (congrArg Except.toOption hrefused)
  | granted hgranted _ => exact .granted hneeds (congrArg Except.toOption hgranted)
  | beyond hgranted hbeyond =>
    rw [hkept]
    exact .beyond hneeds (congrArg Except.toOption hgranted) hbeyond

/-- Every way to a token is one of the courses. -/
theorem run_token_logged (hforward : ∀ grant, s.credentials = .password grant → n.Forward)
    (a : Session σ) (log : List (Exchange σ)) :
    ∃ es result a', (token n.logged s).run.run (a.logged log) = (result, a'.logged (log ++ es)) ∧
      TokenCourse n s a s.credentials es result a' := by
  cases hs : s.credentials with
  | token text =>
    refine ⟨[], .ok text, a, ?_, .given⟩
    rw [run_token_of_given hs, List.append_nil]
  | password grant =>
    by_cases hneeds : a.NeedsGrant (n.now a.network).1
    · obtain ⟨result, a', hrun, hrenewal⟩ := run_renew_logged n s grant (a.looked n) log
      refine ⟨_, result, a', ?_, hrenewal.course hneeds (kept_looked n a)⟩
      rw [run_token_of_needsGrant (hforward grant hs).logged hs hneeds, looked_logged, hrun]
    · obtain ⟨kept, hkept, hfresh⟩ := exists_fresh_of_not_needsGrant hneeds
      refine ⟨[], .ok kept.text, a.tick n, ?_, .held hkept hfresh⟩
      rw [run_token_of_fresh (a := a.logged log) hs hkept hfresh, List.append_nil]
      rfl

/-- Every call is one of the courses. -/
theorem run_perform_logged (hforward : ∀ grant, s.credentials = .password grant → n.Forward)
    (a : Session σ) (c : Call) :
    ∃ es reply a', (perform n.logged s c).run.run (a.logged []) = (reply, a'.logged es) ∧
      CallCourse n s a c es reply a' := by
  obtain ⟨es, result, a', hrun, hcourse⟩ := run_token_logged hforward a []
  rw [List.nil_append] at hrun
  cases result with
  | error fault => exact ⟨_, _, _, perform_of_refused c hrun, .refused hcourse⟩
  | ok bearer =>
    have hperform := perform_of_token c hrun
    cases hsendable : (s.callRequest bearer c).sendable with
    | false =>
      rw [hsendable, if_neg Bool.false_ne_true] at hperform
      exact ⟨_, _, _, hperform, .unsendable hcourse hsendable⟩
    | true =>
      rw [hsendable, if_pos rfl] at hperform
      exact ⟨_, _, _, hperform, .answered hcourse hsendable⟩

end

/-! ## Turns -/

/-- A call of a session: the session before, what was exchanged, the reply, and the session
afterwards. -/
structure Turn (σ : Type) where
  call : Call
  before : Session σ
  exchanges : List (Exchange σ)
  reply : Reply call
  after : Session σ

/-- The requests that were sent, in order. -/
def Turn.requests (t : Turn σ) : List Http.Request :=
  t.exchanges.map Exchange.request

/-- Makes a call in a session; the exchanges are those that a log of the network holds. -/
def turn (n : Network σ) (s : Service) (c : Call) (a : Session σ) : Turn σ where
  call := c
  before := a
  exchanges := ((directory n.logged s).answer c (a.logged [])).2.network.2
  reply := ((directory n s).answer c a).1
  after := ((directory n s).answer c a).2

theorem turn_course {n : Network σ} {s : Service}
    (hforward : ∀ grant, s.credentials = .password grant → n.Forward) (c : Call) (a : Session σ) :
    CallCourse n s a c (turn n s c a).exchanges (turn n s c a).reply (turn n s c a).after := by
  obtain ⟨es, reply, a', hrun, hcourse⟩ := run_perform_logged hforward a c
  -- the log does not change what the call does
  obtain ⟨hreply, hnetwork, hkept⟩ := perform_alike n.alike_logged (s := s) c (fun _ _ => trivial) a
    (a.logged []) ⟨rfl, rfl⟩
  rw [hrun] at hreply hnetwork hkept
  have hafter : (turn n s c a).after = a' := by
    change ((perform n s c).run.run a).2 = a'
    obtain ⟨network, kept⟩ := a'
    cases hlast : ((perform n s c).run.run a).2
    rw [hlast] at hnetwork hkept
    rw [Session.mk.injEq]
    exact ⟨hnetwork.symm, hkept⟩
  have hexchanges : (turn n s c a).exchanges = es := congrArg (·.2.network.2) hrun
  rw [hexchanges, hafter, show (turn n s c a).reply = reply from hreply]
  exact hcourse

end Service

end GroupRoles
