import GroupRoles.Proofs.Directory.Agenda
import GroupRoles.Proofs.Service.Token

/-!
# What the secrets of a service reach

Secrets are shown to the service in two places: the bearer token of a request, and the password and
the client secret in the form that asks for a token. `Request.redacted` is a request without them.
Over a network that does not look at them (`Network.BlindFrom`), services that differ in their
secrets only (`Service.Twins`) come to the same results and send the same requests but for these two
places (`session_twins`).

The proof puts between the two services a network that is given redacted requests: over that network
they are the same directory (`directory_redacting`).
-/

namespace GroupRoles

namespace Http

variable {σ : Type}

/-- The fields of a form that hold secrets. -/
def secretFields : List String := ["password", "client_secret"]

/-- A body without the secrets in its form. -/
def Body.redacted : Body → Body
  | .form pairs =>
    .form (pairs.map fun pair => (pair.1, if secretFields.contains pair.1 then "" else pair.2))
  | body => body

/-- A request without its secrets; whether it shows a token remains. -/
def Request.redacted (r : Request) : Request :=
  { r with bearer := r.bearer.map fun _ => "", body := r.body.redacted }

theorem Body.redacted_redacted (body : Body) : body.redacted.redacted = body.redacted := by
  cases body with
  | none => rfl
  | json text => rfl
  | form pairs =>
    simp only [redacted, List.map_map]
    congr 1
    apply List.map_congr_left
    intro pair _
    simp only [Function.comp_apply]
    split <;> rfl

theorem Request.redacted_redacted (r : Request) : r.redacted.redacted = r.redacted := by
  simp only [redacted, Body.redacted_redacted, Option.map_map]
  rfl

/-- What a network does from a state on does not hang on the secrets of requests: there are states
that it does not tell apart, and it gets from these to such states again. -/
def Network.BlindFrom (n : Network σ) (a : σ) : Prop :=
  ∃ R : σ → σ → Prop, R a a ∧
    (∀ s t, R s t → (n.now s).1 = (n.now t).1 ∧ R (n.now s).2 (n.now t).2) ∧
    ∀ r r' s t, r.redacted = r'.redacted → R s t →
      (n.send r s).1 = (n.send r' t).1 ∧ R (n.send r s).2 (n.send r' t).2

/-- A network that treats every request like the one without secrets is blind from any state. -/
theorem Network.BlindFrom.of_send {n : Network σ} (h : ∀ r s, n.send r s = n.send r.redacted s)
    (a : σ) : n.BlindFrom a := by
  refine ⟨Eq, rfl, ?_, ?_⟩
  · rintro s _ rfl
    exact ⟨rfl, rfl⟩
  · rintro r r' s _ hsame rfl
    have hsend : n.send r s = n.send r' s := by rw [h r, h r', hsame]
    rw [hsend]
    exact ⟨rfl, rfl⟩

/-- A network that is given requests without their secrets, with the list of these. -/
def Network.redacting (n : Network σ) : Network (σ × List Request) where
  now := n.recorded.now
  send r := n.recorded.send r.redacted

/-- States that are not told apart, where the second list is the first without secrets. -/
def Redacted (R : σ → σ → Prop) (s t : σ × List Request) : Prop :=
  R s.1 t.1 ∧ s.2.map Request.redacted = t.2

/-- A blind network does the same when it is given redacted requests. -/
theorem Network.alike_redacting {n : Network σ} {R : σ → σ → Prop}
    (hnow : ∀ s t, R s t → (n.now s).1 = (n.now t).1 ∧ R (n.now s).2 (n.now t).2)
    (hsend : ∀ r r' s t, r.redacted = r'.redacted → R s t →
      (n.send r s).1 = (n.send r' t).1 ∧ R (n.send r s).2 (n.send r' t).2) :
    Network.Alike (Redacted R) (fun _ => True) n.recorded n.redacting where
  now := by
    rintro s t ⟨hst, hlist⟩
    obtain ⟨htime, hnext⟩ := hnow s.1 t.1 hst
    exact ⟨htime, hnext, hlist⟩
  send := by
    rintro r s t - ⟨hst, hlist⟩
    obtain ⟨hreply, hnext⟩ := hsend r r.redacted s.1 t.1 r.redacted_redacted.symm hst
    refine ⟨hreply, hnext, ?_⟩
    show (s.2 ++ [r]).map Request.redacted = t.2 ++ [r.redacted]
    rw [List.map_append, hlist, List.map_singleton]

end Http

/-! ## Services that differ in their secrets -/

/-- Credentials that differ in their secrets only; a header can hold both tokens or neither. -/
inductive Credentials.Twins : Credentials → Credentials → Prop where
  | token {text text' : String}
      (hshow : text.toList.all Http.Request.isSendable = text'.toList.all Http.Request.isSendable) :
      Twins (.token text) (.token text')
  | password {grant grant' : PasswordGrant} (hrealm : grant'.realm = grant.realm)
      (hclient : grant'.clientId = grant.clientId) (huser : grant'.username = grant.username)
      (hsecret : grant'.clientSecret.isSome = grant.clientSecret.isSome) :
      Twins (.password grant) (.password grant')

/-- Credentials that differ in their secrets only are described alike. -/
theorem Credentials.Twins.describe_eq {credentials credentials' : Credentials}
    (h : credentials.Twins credentials') : credentials'.describe = credentials.describe := by
  cases h with
  | token hshow => rfl
  | password hrealm hclient huser hsecret => simp only [describe, hrealm, hclient, huser]

namespace Service

open Http

variable {σ ε : Type} {n : Network σ} {s s' : Service}

/-- Services at one place whose credentials differ in their secrets only. -/
structure Twins (s s' : Service) : Prop where
  base : s'.base = s.base
  credentials : s.credentials.Twins s'.credentials

namespace Twins

/-- Where the requests of a call go, and what is made of the answer, is no matter of secrets. -/
theorem callRequest_eq (h : s.Twins s') (bearer : String) (c : Call) :
    s'.callRequest bearer c = s.callRequest bearer c := by
  obtain ⟨base, credentials⟩ := s
  obtain ⟨base', credentials'⟩ := s'
  obtain rfl := h.base
  cases c with
  | role realm query => cases query <;> rfl
  | _ => rfl

theorem replyOf_eq (h : s.Twins s') (c : Call) : s'.replyOf c = s.replyOf c := by
  obtain ⟨base, credentials⟩ := s
  obtain ⟨base', credentials'⟩ := s'
  obtain rfl := h.base
  funext answer
  cases c with
  | role realm query => cases query <;> rfl
  | _ => rfl

/-- Both services are given a token, or both a password. -/
theorem credentials_cases (h : s.Twins s') :
    (∃ text text', s.credentials = .token text ∧ s'.credentials = .token text' ∧
        text.toList.all Request.isSendable = text'.toList.all Request.isSendable) ∨
      ∃ grant grant', s.credentials = .password grant ∧ s'.credentials = .password grant' := by
  have htwins := h.credentials
  generalize s.credentials = credentials at htwins ⊢
  generalize s'.credentials = credentials' at htwins ⊢
  cases htwins with
  | token hshow => exact .inl ⟨_, _, rfl, rfl, hshow⟩
  | password hrealm hclient huser hsecret => exact .inr ⟨_, _, rfl, rfl⟩

end Twins

/-- Calls with different tokens differ in these only. -/
theorem redacted_callRequest (s : Service) (bearer bearer' : String) (c : Call) :
    (s.callRequest bearer c).redacted = (s.callRequest bearer' c).redacted := by
  rw [callRequest_eq, callRequest_eq]
  rfl

theorem sendable_callRequest (s : Service) (bearer : String) (c : Call) :
    (s.callRequest bearer c).sendable = bearer.toList.all Request.isSendable := by
  rw [callRequest_eq]
  rfl

/-! ## Over a network that is given no secrets -/

theorem send_redacting {r r' : Http.Request} (h : r'.redacted = r.redacted) :
    n.redacting.send r' = n.redacting.send r := by
  simp only [Network.redacting, h]

/-- Requests for a token that differ in their secrets only. -/
theorem redacted_grantRequest (h : s.Twins s') {grant grant' : PasswordGrant}
    (hs : s.credentials = .password grant) (hs' : s'.credentials = .password grant') :
    s'.tokenUrl = s.tokenUrl ∧
      (s'.grantRequest grant').redacted = (s.grantRequest grant).redacted := by
  obtain ⟨base, credentials⟩ := s
  obtain ⟨base', credentials'⟩ := s'
  obtain rfl := h.base
  have htwins := h.credentials
  simp only at hs hs' htwins
  subst hs hs'
  cases htwins with
  | password hrealm hclient huser hsecret =>
    have hurl : tokenUrl ⟨base', .password grant'⟩ = tokenUrl ⟨base', .password grant⟩ := by
      simp only [tokenUrl, grantRealm, hrealm]
    refine ⟨hurl, ?_⟩
    have hform : (Body.form (grantForm grant')).redacted =
        (Body.form (grantForm grant)).redacted := by
      unfold grantForm
      rw [hclient, huser]
      cases hfirst : grant.clientSecret <;> cases hsecond : grant'.clientSecret <;>
        rw [hfirst, hsecond] at hsecret
      · rfl
      · cases hsecret
      · cases hsecret
      · rfl
    simp only [grantRequest, Request.redacted, hform, hurl]

/-- The token of a password is the same for both services. -/
theorem token_redacting (h : s.Twins s') {grant grant' : PasswordGrant}
    (hs : s.credentials = .password grant) (hs' : s'.credentials = .password grant') :
    token n.redacting s' = token n.redacting s := by
  obtain ⟨hurl, hrequest⟩ := redacted_grantRequest h hs hs'
  have hgranted : s'.granted = s.granted := by
    funext response
    simp only [granted, hurl]
  have hask : ask n.redacting s' grant' = ask n.redacting s grant := by
    simp only [ask, transmit, send_redacting hrequest, hgranted]
  simp only [token, hs, hs', hask]

/-- A call is the same for both services. -/
theorem perform_redacting (h : s.Twins s') (c : Call) (a : Session (σ × List Http.Request)) :
    (perform n.redacting s' c).run.run a = (perform n.redacting s c).run.run a := by
  rcases h.credentials_cases with ⟨text, text', hs, hs', hshow⟩ | ⟨grant, grant', hs, hs'⟩
  · -- a token that is given is used as it is, so all that matters is whether a header can hold it
    have hsend := send_redacting (n := n) (s.redacted_callRequest text' text c)
    rw [perform_of_token c (run_token_of_given hs), perform_of_token c (run_token_of_given hs'),
      h.callRequest_eq, h.replyOf_eq, sendable_callRequest, sendable_callRequest, hshow, hsend]
  · -- a token that is granted is the same for both
    have htoken := token_redacting (n := n) h hs hs'
    rcases hrun : (token n.redacting s).run.run a with ⟨result, a'⟩
    have hrun' : (token n.redacting s').run.run a = (result, a') := by rw [htoken, hrun]
    cases result with
    | error fault => rw [perform_of_refused c hrun, perform_of_refused c hrun']
    | ok bearer =>
      rw [perform_of_token c hrun, perform_of_token c hrun', h.callRequest_eq, h.replyOf_eq]

/-- Over a network that is given no secrets both services are the same directory. -/
theorem directory_redacting (h : s.Twins s') :
    directory n.redacting s' = directory n.redacting s := by
  have hanswer : ∀ c a, (directory n.redacting s').answer c a =
      (directory n.redacting s).answer c a := perform_redacting h
  have hsame := funext fun c => funext (hanswer c)
  exact congrArg Directory.mk hsame

/-! ## Sessions -/

/-- What an agenda comes to on a service, and the requests that were sent for it, from a state of
the network on. -/
def session (s : Service) (n : Network σ) (a : σ) (agenda : Agenda) :
    List Errand.Done × List Http.Request :=
  let run := agenda.run (directory n.recorded s) { network := (a, []) }
  (run.1, run.2.network.2)

/-- Services that differ in their secrets only come to the same, over a network that does not look
at them, and the requests that they send differ in their secrets only. -/
theorem session_twins {a : σ} (hblind : n.BlindFrom a) (h : s.Twins s') (agenda : Agenda) :
    (s.session n a agenda).1 = (s'.session n a agenda).1 ∧
      (s.session n a agenda).2.map Request.redacted =
        (s'.session n a agenda).2.map Request.redacted := by
  obtain ⟨R, hstart, hnow, hsend⟩ := hblind
  have halike := Network.alike_redacting hnow hsend
  have hrun : ∀ s : Service, (s.session n a agenda).1 =
        (agenda.run (directory n.redacting s) { network := (a, []) }).1 ∧
      (s.session n a agenda).2.map Request.redacted =
        (agenda.run (directory n.redacting s) { network := (a, []) }).2.network.2 := by
    intro s
    have hdirectory : Directory.Alike (Session.Alike (Redacted R)) (fun _ => True)
        (directory n.recorded s) (directory n.redacting s) :=
      fun c b b' _ hb => directory_alike halike s c b b' (fun _ _ => trivial) hb
    obtain ⟨hdone, hstate⟩ := agenda.run_alike hdirectory
      (s := { network := (a, []) }) (t := { network := (a, []) }) ⟨⟨hstart, rfl⟩, rfl⟩
    exact ⟨hdone, hstate.network.2⟩
  -- each session is like one over the network between, where both services are one directory
  obtain ⟨hdone, hlist⟩ := hrun s
  obtain ⟨hdone', hlist'⟩ := hrun s'
  rw [hdone, hdone', hlist, hlist', directory_redacting h]
  exact ⟨rfl, rfl⟩

end Service

end GroupRoles
