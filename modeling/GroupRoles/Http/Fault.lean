import GroupRoles.Connection

/-!
# Failures of the directory service

What can go wrong between a call and its answer: the network gives no usable response, or the
service answers with an error status. A failure is shown as a chain of texts, the outermost
first. The brief chain leaves out what the transport itself says.
-/

namespace GroupRoles

/-- How much of a failure is shown. -/
inductive Detail where
  | brief
  | full
deriving Repr, DecidableEq

/-- Why there is no usable response. -/
inductive TransportFault where
  /-- No connection is made for a request to this URL. -/
  | unreachable (url : String)
  /-- The connection ends before the response to a request to this URL. -/
  | dropped (url : String)
  /-- A header of the request cannot be sent. -/
  | unsendable
  /-- The body of the response is not what was asked for. -/
  | undecodable (reason : String)
deriving Repr, DecidableEq

/-- Why the directory service could not be used. -/
inductive ServiceFault where
  | settings (fault : SettingsFault)
  | baseUrl (text reason : String)
  | transport (fault : TransportFault)
  /-- The token was refused. -/
  | grant (url : String) (status : Nat) (detail : String)
  /-- The service answered a request with an error. -/
  | status (method url : String) (status : Nat) (detail : String)
  /-- The lifetime of a token reaches beyond the clock. This stands for a panic, which no caller
  handles: a command that meets it ends at once with exit code 101. -/
  | beyondClock
deriving Repr, DecidableEq

namespace TransportFault

/-- The texts of a fault. -/
def chain : TransportFault → List String
  | unreachable url =>
    [s!"error sending request for url ({url})", "client error (Connect)", "tcp connect error",
      "Network is unreachable (os error 101)"]
  | dropped url =>
    [s!"error sending request for url ({url})", "client error (SendRequest)",
      "connection closed before message completed"]
  | unsendable => ["builder error", "failed to parse header value"]
  | undecodable reason => ["error decoding response body", reason]

end TransportFault

namespace ServiceFault

/-- The status that a fault tells of. -/
def status? : ServiceFault → Option Nat
  | grant _ code _ | status _ _ code _ => some code
  | _ => none

/-- The text of a fault. -/
def message (detail : Detail) : ServiceFault → String
  | settings fault => "configuration error: " ++ fault.message
  | baseUrl text reason => s!"invalid base URL '{text}': {reason}"
  | transport fault =>
    match detail with
    | .brief => "HTTP client error"
    | .full => "HTTP client error: " ++ fault.chain.headD ""
  | grant url code text => s!"token request to {url} failed with status {code}: {text}"
  | status method url code text => s!"{method} {url} failed with status {code}: {text}"
  | beyondClock => "overflow when adding duration to instant"

/-- The texts of a fault and of what caused it. -/
def chain (detail : Detail) (fault : ServiceFault) : List String :=
  fault.message detail ::
    match fault, detail with
    | settings fault, _ => [fault.message]
    | transport fault, .full => fault.chain
    | _, _ => []

end ServiceFault

end GroupRoles
