import GroupRoles.Reference
import GroupRoles.Text.Utf8

/-!
# Connections and credentials

How the directory service is reached and which credentials are used: a bearer token, or a
password with the user and realm it belongs to. Token and password may come from the
environment. `Connection.describe` and `Credentials.describe` show everything but the secrets.
-/

namespace GroupRoles

/-- The variables of an environment, whose values need not be text. -/
abbrev Environment := List (String × List UInt8)

namespace Environment

/-- The bytes behind a name and an equals sign: the environment writes `NAME=VALUE`, and a name
with an equals sign reaches into the value. -/
def bytes? (env : Environment) (name : String) : Option (List UInt8) :=
  let front := Text.Utf8.encode name ++ [0x3d]
  env.findSome? fun (key, value) => front.isPrefixOf? (Text.Utf8.encode key ++ 0x3d :: value)

/-- The value of a variable; an empty one, or one that is no text, counts as absent. -/
def read? (env : Environment) (name : String) : Option String :=
  (env.bytes? name).bind fun bytes =>
    (Text.Utf8.strict? bytes).filter fun s => !s.isEmpty

end Environment

/-- The settings of a connection. -/
structure Connection where
  baseUrl : String
  /-- The realm that grants tokens, not the realm of the roles. -/
  realm : Option String := none
  clientId : String := "admin-cli"
  clientSecret : Option String := none
  username : Option String := none
  password : Option String := none
  passwordVariable : Option String := none
  token : Option String := none
  tokenVariable : Option String := none
  timeoutSeconds : Nat := 30
  checkCertificates : Bool := true
deriving Repr, DecidableEq

/-- Credentials of the password grant. -/
structure PasswordGrant where
  realm : String
  clientId : String
  clientSecret : Option String
  username : String
  password : String
deriving Repr, DecidableEq

/-- What is shown to the directory service. -/
inductive Credentials where
  | token (token : String)
  | password (grant : PasswordGrant)
deriving Repr, DecidableEq

/-- Why settings cannot be used. -/
inductive SettingsFault where
  | emptyBaseUrl
  | noCredentials
  | partialCredentials
  | reference (fault : ReferenceFault)
  | emptyRealm
deriving Repr, DecidableEq

namespace SettingsFault

/-- What is wrong. -/
def reason : SettingsFault → String
  | emptyBaseUrl => "`connection.base_url` cannot be empty"
  | noCredentials =>
    "one of `token` or `auth_realm`/`auth_username`/`auth_password` is required"
  | partialCredentials =>
    "`auth_realm`, `auth_username` and `auth_password` must be given together"
  | reference fault => fault.message
  | emptyRealm => "`request.realm` cannot be empty"

/-- The text of a fault. -/
def message (fault : SettingsFault) : String :=
  "Configuration error: " ++ fault.reason

end SettingsFault

namespace Connection

/-- A value given directly, or else the value of a variable. -/
def given? (env : Environment) (direct name : Option String) : Option String :=
  direct <|> name.bind env.read?

/-- The token, or else the password with its user and realm. -/
def credentials (c : Connection) (env : Environment) : Except SettingsFault Credentials :=
  match given? env c.token c.tokenVariable with
  | some token => pure (.token token)
  | none =>
    match c.realm, c.username, given? env c.password c.passwordVariable with
    | some realm, some username, some password =>
      pure (.password ⟨realm, c.clientId, c.clientSecret, username, password⟩)
    | none, none, none => throw .noCredentials
    | _, _, _ => throw .partialCredentials

/-- The fields of a connection. -/
def shape : Shape Connection :=
  .record "ConnectionConfig" <|
    ((Fields.field "base_url" .text).both
      ((Fields.optional "auth_realm" .text).both
        ((Fields.field "auth_client_id" .text (some "admin-cli")).both
          ((Fields.optional "auth_client_secret" .text).both
            ((Fields.optional "auth_username" .text).both
              ((Fields.optional "auth_password" .text).both
                ((Fields.optional "auth_password_env" .text).both
                  ((Fields.optional "token" .text).both
                    ((Fields.optional "token_env" .text).both
                      ((Fields.field "timeout_seconds" .count (some 30)).both
                        (.field "validate_certs" .flag (some true)))))))))))).build
      (fun (baseUrl, realm, clientId, clientSecret, username, password, passwordVariable,
          token, tokenVariable, timeoutSeconds, checkCertificates) =>
        ⟨baseUrl, realm, clientId, clientSecret, username, password, passwordVariable,
          token, tokenVariable, timeoutSeconds, checkCertificates⟩)
      (fun c => (c.baseUrl, c.realm, c.clientId, c.clientSecret, c.username, c.password,
        c.passwordVariable, c.token, c.tokenVariable, c.timeoutSeconds, c.checkCertificates))

/-! ## Descriptions -/

/-- A text that may be absent. -/
def describeText : Option String → String
  | some s => "Some(" ++ Text.quote s ++ ")"
  | none => "None"

/-- A secret that may be absent. -/
def describeSecret (secret : Option String) : String :=
  describeText (secret.map fun _ => "<redacted>")

/-- Named parts between braces. -/
def describeParts (title : String) (parts : List (String × String)) (more : Bool) : String :=
  let shown := parts.map (fun p => p.1 ++ ": " ++ p.2) ++ if more then [".."] else []
  title ++ " \x7b " ++ String.intercalate ", " shown ++ " \x7d"

/-- A connection without its secrets. -/
def describe (c : Connection) : String :=
  describeParts "ConnectionConfig"
    [("base_url", Text.quote c.baseUrl),
      ("auth_realm", describeText c.realm),
      ("auth_client_id", Text.quote c.clientId),
      ("auth_client_secret", describeSecret c.clientSecret),
      ("auth_username", describeText c.username),
      ("auth_password", describeSecret c.password),
      ("auth_password_env", describeText c.passwordVariable),
      ("token", describeSecret c.token),
      ("token_env", describeText c.tokenVariable),
      ("timeout_seconds", toString c.timeoutSeconds),
      ("validate_certs", if c.checkCertificates then "true" else "false")]
    false

end Connection

/-- Credentials without their secrets. -/
def Credentials.describe : Credentials → String
  | token _ => "Token(" ++ Text.quote "<redacted>" ++ ")"
  | password grant =>
    Connection.describeParts "Password"
      [("realm", Text.quote grant.realm),
        ("client_id", Text.quote grant.clientId),
        ("username", Text.quote grant.username)]
      true

end GroupRoles
