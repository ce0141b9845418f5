import GroupRoles.Http.ErrorText
import GroupRoles.Service.Basic

/-!
# Tokens

A given token is used as it is. Otherwise a token is granted for a password, and kept until
shortly before it expires.
-/

namespace GroupRoles.Service

open Http

/-- A token and the time at which it expires. -/
structure Token where
  text : String
  expiry : Nat
deriving Repr, DecidableEq

/-- The state of a session: the network's, and the token that is kept. -/
structure Session (σ : Type) where
  network : σ
  kept : Option Token := none

/-- A step of a session that may fail. -/
abbrev Step (σ ε α : Type) := ExceptT ε (StateM (Session σ)) α

/-- How long before its expiry a token is given up. -/
def grace : Nat := 10 * second

/-- The largest number of seconds that the clock can show. -/
def maxSeconds : Nat := Nat.pow 2 63 - 1

/-- Whether a token is too old at a time. -/
def Token.isStale (t : Token) (now : Nat) : Bool :=
  t.expiry ≤ now + grace

/-- The answer that grants a token: the token and its lifetime in seconds. -/
structure Granted where
  token : String
  lifetime : Nat
deriving Repr, DecidableEq

/-- The fields of an answer that grants a token. -/
def Granted.shape : Shape Granted :=
  .record "TokenResponse" <|
    ((Fields.field "access_token" .text).both (.field "expires_in" .count (some 60))).build
      (fun (token, lifetime) => ⟨token, lifetime⟩) (fun g => (g.token, g.lifetime))

/-- The form that asks for a token. -/
def grantForm (grant : PasswordGrant) : List (String × String) :=
  [("grant_type", "password"), ("client_id", grant.clientId), ("username", grant.username),
    ("password", grant.password)]
    ++ (grant.clientSecret.map fun secret => ("client_secret", secret)).toList

/-- The request for a token. -/
def grantRequest (s : Service) (grant : PasswordGrant) : Http.Request where
  method := .post
  url := s.tokenUrl
  body := .form (grantForm grant)

/-- A value of a shape from the bytes of a body. -/
def decode {α : Type} (shape : Shape α) (body : List UInt8) : Except TransportFault α :=
  (shape.ofJsonBytes body).mapError fun fault => .undecodable fault.message

/-- What the answer to a request for a token grants. -/
def granted (s : Service) (response : Response) : Except ServiceFault Granted :=
  if response.isSuccess then (decode Granted.shape response.body).mapError .transport
  else
    throw (.grant s.tokenUrl.text response.status (errorText (Text.Utf8.lossy response.body)))

/-- The token that is kept from what was granted at a time. The sum is a panic when the clock cannot
show it. -/
def Granted.keep (g : Granted) (now : Nat) : Except ServiceFault Token :=
  if now / second + g.lifetime ≤ maxSeconds then pure ⟨g.token, now + g.lifetime * second⟩
  else throw .beyondClock

section

variable {σ : Type} (n : Network σ) (s : Service)

/-- Reads the clock. -/
def readClock {ε : Type} : Step σ ε Nat := do
  let session ← get
  let (now, network) := n.now session.network
  set { session with network }
  pure now

/-- Sends a request. -/
def transmit {ε : Type} (r : Http.Request) : Step σ ε (Except TransportFault Response) := do
  let session ← get
  let (reply, network) := n.send r session.network
  set { session with network }
  pure reply

/-- Gives up the token that is kept. -/
def forget {ε : Type} : Step σ ε Unit :=
  modify fun session => { session with kept := none }

/-- The text of the token that is kept, unless it is too old. -/
def look {ε : Type} : Step σ ε (Option String) := do
  match (← get).kept with
  | none => pure none
  | some kept => do
    let now ← readClock n
    pure (if kept.isStale now then none else some kept.text)

/-- Asks for a token. -/
def ask (grant : PasswordGrant) : Step σ ServiceFault Granted := do
  let reply ← transmit n (s.grantRequest grant)
  let response ← (reply.mapError ServiceFault.transport : Except ServiceFault Response)
  s.granted response

/-- Keeps a token that was granted. -/
def store (g : Granted) : Step σ ServiceFault String := do
  let now ← readClock n
  let token ← g.keep now
  modify fun session => { session with kept := some token }
  pure token.text

/-- A token that can be used now. Before one is asked for, the kept one is looked at again: another
caller may have asked meanwhile. -/
def token : Step σ ServiceFault String := do
  match s.credentials with
  | .token text => pure text
  | .password grant =>
    match ← look n with
    | some text => pure text
    | none =>
      match ← look n with
      | some text => pure text
      | none => do
        let g ← ask n s grant
        store n g

end

end GroupRoles.Service
