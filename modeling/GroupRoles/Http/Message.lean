import GroupRoles.Http.Fault
import GroupRoles.Url.Basic

/-!
# Requests over a network

A network has a clock and carries one request at a time. It may answer as it likes, and what it
answers may depend on everything that happened before.
-/

namespace GroupRoles.Http

/-- What a request does. -/
inductive Method where
  | get
  | post
  | delete
deriving Repr, DecidableEq

/-- The name of a method. -/
def Method.name : Method → String
  | get => "GET"
  | post => "POST"
  | delete => "DELETE"

/-- The body of a request. -/
inductive Body where
  | none
  | form (pairs : List (String × String))
  | json (text : String)
deriving Repr, DecidableEq

/-- A request. -/
structure Request where
  method : Method
  url : Url
  /-- The bearer token that is shown. -/
  bearer : Option String := none
  body : Body := .none
deriving Repr, DecidableEq

/-- A response. -/
structure Response where
  status : Nat
  body : List UInt8
deriving Repr, DecidableEq

/-- The text of a body. -/
def Body.text : Body → String
  | none => ""
  | form pairs => String.ofList (Url.formText pairs)
  | json s => s

/-- What a body says of its form. -/
def Body.contentType? : Body → Option String
  | none => Option.none
  | form _ => some "application/x-www-form-urlencoded"
  | json _ => some "application/json"

namespace Request

/-- The header that shows the token. -/
def authorization? (r : Request) : Option String :=
  r.bearer.map ("Bearer " ++ ·)

/-- A character that a header may hold. -/
def isSendable (c : Char) : Bool :=
  c = '\t' || (0x20 ≤ c.toNat && c.toNat ≠ 0x7f)

/-- Whether all headers of a request can be sent. -/
def sendable (r : Request) : Bool :=
  (r.bearer.getD "").toList.all isSendable

end Request

/-- Whether a response tells of success. -/
def Response.isSuccess (r : Response) : Bool :=
  200 ≤ r.status && r.status < 300

/-- Nanoseconds in a second. -/
def second : Nat := 1000000000

/-- A network with states `σ`; its clock counts nanoseconds. -/
structure Network (σ : Type) where
  now : σ → Nat × σ
  send : Request → σ → Except TransportFault Response × σ

/-- A network that no request gets into. -/
def Network.unreachable : Network Unit where
  now s := (0, s)
  send r s := (throw (.unreachable r.url.shown.text), s)

end GroupRoles.Http
