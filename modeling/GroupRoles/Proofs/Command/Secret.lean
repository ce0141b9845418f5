import GroupRoles.Command.Validate
import GroupRoles.Proofs.Service.Secret

/-!
# What the secrets of a connection reach

Two connections that differ in the values of their secrets only are described alike, checked alike
and used alike: `secrets_unseen` says that of them nothing is seen but in the bearer token of
requests and in the form that asks for a token.
-/

namespace GroupRoles

variable {env : Environment}

namespace Connection

/-- A connection without the values of its secrets; which of them are given remains. -/
def redacted (c : Connection) : Connection :=
  { c with
    clientSecret := c.clientSecret.map fun _ => ""
    password := c.password.map fun _ => ""
    token := c.token.map fun _ => "" }

/-- The description of a connection does not show its secrets. -/
theorem describe_redacted (c : Connection) : c.redacted.describe = c.describe := by
  simp only [describe, redacted, describeSecret, Option.map_map]
  rfl

/-- A header can hold the token of a connection, if one is given. -/
def CanShow (c : Connection) : Prop :=
  ∀ token ∈ c.token, token.toList.all Http.Request.isSendable = true

variable {c c' : Connection}

theorem isSome_of_redacted {secret secret' : Option String}
    (h : (secret.map fun _ => "") = secret'.map fun _ => "") : secret'.isSome = secret.isSome := by
  have hsome := congrArg Option.isSome h
  rw [Option.isSome_map, Option.isSome_map] at hsome
  exact hsome.symm

/-- Whether a value is given, directly or by a variable, is no matter of the value. -/
theorem isSome_given? {direct direct' name : Option String} (h : direct'.isSome = direct.isSome) :
    (given? env direct' name).isSome = (given? env direct name).isSome := by
  cases direct <;> cases direct'
  · rfl
  · cases h
  · cases h
  · rfl

/-- Connections that differ in their secrets only give credentials that do, or neither gives any,
for the same reason. -/
theorem credentials_cases (env : Environment) (hsame : c.redacted = c'.redacted) (hshow : c.CanShow)
    (hshow' : c'.CanShow) :
    (∃ fault, c.credentials env = .error fault ∧ c'.credentials env = .error fault) ∨
      ∃ credentials credentials', c.credentials env = .ok credentials ∧
        c'.credentials env = .ok credentials' ∧ credentials.Twins credentials' := by
  obtain ⟨baseUrl, realm, clientId, secret, username, password, passwordVariable, token,
    tokenVariable, timeout, certificates⟩ := c
  obtain ⟨baseUrl', realm', clientId', secret', username', password', passwordVariable', token',
    tokenVariable', timeout', certificates'⟩ := c'
  simp only [redacted, Connection.mk.injEq] at hsame
  obtain ⟨rfl, rfl, rfl, hsecret, rfl, hpassword, rfl, htoken, rfl, rfl, rfl⟩ := hsame
  have hsecret := isSome_of_redacted hsecret
  have hpassword : (given? env password' passwordVariable).isSome =
      (given? env password passwordVariable).isSome := isSome_given? (isSome_of_redacted hpassword)
  have htoken := isSome_of_redacted htoken
  unfold credentials
  cases token with
  | some text =>
    cases token' with
    | none => cases htoken
    | some text' =>
      have htexts := (hshow text rfl).trans (hshow' text' rfl).symm
      exact .inr ⟨_, _, rfl, rfl, .token htexts⟩
  | none =>
    cases token' with
    | some text' => cases htoken
    | none =>
      dsimp only
      cases given? env none tokenVariable with
      | some text => exact .inr ⟨_, _, rfl, rfl, .token rfl⟩
      | none =>
        -- the password counts with its user and its realm
        generalize given? env password passwordVariable = given at hpassword ⊢
        generalize given? env password' passwordVariable = given' at hpassword ⊢
        cases given <;> cases given'
        · cases realm <;> cases username <;> exact .inl ⟨_, rfl, rfl⟩
        · cases hpassword
        · cases hpassword
        · cases realm with
          | none => cases username <;> exact .inl ⟨_, rfl, rfl⟩
          | some realm =>
            cases username with
            | none => exact .inl ⟨_, rfl, rfl⟩
            | some username => exact .inr ⟨_, _, rfl, rfl, .password rfl rfl rfl hsecret⟩

end Connection

/-- Connections that differ in their secrets only name services that do, or neither names one, for
the same reason. -/
theorem Service.ofConnection_cases {c c' : Connection} (env : Environment)
    (hsame : c.redacted = c'.redacted) (hshow : c.CanShow) (hshow' : c'.CanShow) :
    (∃ fault, ofConnection c env = .error fault ∧ ofConnection c' env = .error fault) ∨
      ∃ s s', ofConnection c env = .ok s ∧ ofConnection c' env = .ok s' ∧ s.Twins s' := by
  have hbase : c'.baseUrl = c.baseUrl := (congrArg Connection.baseUrl hsame).symm
  unfold ofConnection
  rw [hbase]
  cases Url.ofText? c.baseUrl with
  | error fault => exact .inl ⟨_, rfl, rfl⟩
  | ok base =>
    rcases Connection.credentials_cases env hsame hshow hshow' with
      ⟨fault, hfault, hfault'⟩ | ⟨credentials, credentials', hok, hok', htwins⟩
    · rw [hfault, hfault']
      exact .inl ⟨_, rfl, rfl⟩
    · rw [hok, hok']
      exact .inr ⟨⟨base, credentials⟩, ⟨base, credentials'⟩, rfl, rfl, rfl, htwins⟩

/-- Credentials that differ in their secrets only are of one kind. -/
theorem Credentials.Twins.authName_eq {credentials credentials' : Credentials}
    (h : credentials.Twins credentials') :
    Overview.authName credentials' = Overview.authName credentials := by
  cases h <;> rfl

section

variable {c c' : Connection} (hsame : c.redacted = c'.redacted) (hshow : c.CanShow)
  (hshow' : c'.CanShow)
include hsame hshow hshow'

theorem Connection.describe_credentials_congr :
    (c'.credentials env).map Credentials.describe =
      (c.credentials env).map Credentials.describe := by
  rcases credentials_cases env hsame hshow hshow' with
    ⟨fault, hfault, hfault'⟩ | ⟨credentials, credentials', hok, hok', htwins⟩
  · rw [hfault, hfault']
  · rw [hok, hok']
    exact congrArg Except.ok htwins.describe_eq

theorem Settings.check_congr (request : Request) :
    Settings.check ⟨c', request⟩ env = Settings.check ⟨c, request⟩ env := by
  have hbase : c'.baseUrl = c.baseUrl := (congrArg Connection.baseUrl hsame).symm
  unfold check
  simp only [hbase]
  rcases Connection.credentials_cases env hsame hshow hshow' with
    ⟨fault, hfault, hfault'⟩ | ⟨credentials, credentials', hok, hok', htwins⟩
  · rw [hfault, hfault']
  · rw [hok, hok']
    rfl

theorem Overview.ofSettings_congr (request : Request) :
    ofSettings ⟨c', request⟩ env = ofSettings ⟨c, request⟩ env := by
  unfold ofSettings
  rcases Service.ofConnection_cases env hsame hshow hshow' with
    ⟨fault, hfault, hfault'⟩ | ⟨s, s', hok, hok', htwins⟩
  · rw [hfault, hfault']
  · have hname := htwins.credentials.authName_eq
    rw [hok, hok']
    dsimp only
    cases request.roleKeys with
    | error fault => rfl
    | ok keys =>
      change Except.ok (⟨_, _, _, _, authName s'.credentials⟩ : Overview) =
        Except.ok (⟨_, _, _, _, authName s.credentials⟩ : Overview)
      rw [hname]

end

/-- Two connections that differ only in the values of their secrets, with tokens that a header can
hold. Nothing that is shown of them differs: not their descriptions, not those of their credentials,
not what checking settings says or tells. Over a network that does not look at the secrets of
requests neither names a service, for the same reason, or both do: then every agenda comes to the
same on both, results and problems with their texts, and the requests that are sent differ at most
in the bearer token and in the password and client secret of a form. -/
theorem Connection.secrets_unseen {σ : Type} (n : Http.Network σ) (a : σ)
    (hblind : n.BlindFrom a) (env : Environment) (c c' : Connection)
    (hsame : c.redacted = c'.redacted) (hshow : c.CanShow) (hshow' : c'.CanShow) :
    c.describe = c'.describe ∧
    (c.credentials env).map Credentials.describe = (c'.credentials env).map Credentials.describe ∧
    (∀ request, Settings.check ⟨c, request⟩ env = Settings.check ⟨c', request⟩ env ∧
      Overview.ofSettings ⟨c, request⟩ env = Overview.ofSettings ⟨c', request⟩ env) ∧
    ((∃ fault, Service.ofConnection c env = .error fault ∧
        Service.ofConnection c' env = .error fault) ∨
      ∃ s s', Service.ofConnection c env = .ok s ∧ Service.ofConnection c' env = .ok s' ∧
        ∀ agenda, (s.session n a agenda).1 = (s'.session n a agenda).1 ∧
          (s.session n a agenda).2.map Http.Request.redacted =
            (s'.session n a agenda).2.map Http.Request.redacted) := by
  have hdescribe : c.describe = c'.describe := by
    rw [← describe_redacted c, hsame, describe_redacted]
  refine ⟨hdescribe, (describe_credentials_congr hsame hshow hshow').symm, fun request => ?_, ?_⟩
  · exact ⟨(Settings.check_congr hsame hshow hshow' request).symm,
      (Overview.ofSettings_congr hsame hshow hshow' request).symm⟩
  · rcases Service.ofConnection_cases env hsame hshow hshow' with
      hfault | ⟨s, s', hok, hok', htwins⟩
    · exact .inl hfault
    · exact .inr ⟨s, s', hok, hok', Service.session_twins hblind htwins⟩

/-- Two passwords and two client secrets: what is sent differs, but not without its secrets. -/
theorem Connection.secrets_unseen_granted :
    let c : Connection :=
      { baseUrl := "http://[::1]", realm := some "master", username := some "admin"
        clientSecret := some "s1", password := some "p1" }
    let c' : Connection := { c with clientSecret := some "s2", password := some "p2" }
    let replies : List Http.Response :=
      [⟨200, Text.Utf8.encode "\x7b\"access_token\": \"a\"\x7d"⟩, ⟨200, Text.Utf8.encode "[]"⟩]
    let agenda := Agenda.ofList
      [.call (.client "r" "portal"), .fulfil { group := { name := some "staff" } }]
    c.describe = c'.describe ∧
      ∃ s s', Service.ofConnection c [] = .ok s ∧ Service.ofConnection c' [] = .ok s' ∧
        (s.session .scripted replies agenda).1 = (s'.session .scripted replies agenda).1 ∧
        (s.session .scripted replies agenda).2 ≠ (s'.session .scripted replies agenda).2 ∧
        (s.session .scripted replies agenda).2.map Http.Request.redacted =
          (s'.session .scripted replies agenda).2.map Http.Request.redacted := by
  intro c c' replies agenda
  have hblind : Http.Network.scripted.BlindFrom replies := by
    refine .of_send (fun r s => ?_) replies
    cases s <;> rfl
  have hshow : c.CanShow := fun token htoken => by cases htoken
  have hshow' : c'.CanShow := fun token htoken => by cases htoken
  have hdiffer :
      (Service.ofConnection c []).toOption.map (fun s => (s.session .scripted replies agenda).2) ≠
        (Service.ofConnection c' []).toOption.map fun s =>
          (s.session .scripted replies agenda).2 := by
    decide +kernel
  obtain ⟨hdescribe, -, -, hservices⟩ :=
    secrets_unseen .scripted replies hblind [] c c' rfl hshow hshow'
  rcases hservices with ⟨fault, hfault, hfault'⟩ | ⟨s, s', hok, hok', hsessions⟩
  · rw [hfault, hfault'] at hdiffer
    exact absurd rfl hdiffer
  · rw [hok, hok'] at hdiffer
    obtain ⟨hdone, hsent⟩ := hsessions agenda
    exact ⟨hdescribe, s, s', hok, hok', hdone, fun he => hdiffer (congrArg some he), hsent⟩

end GroupRoles
