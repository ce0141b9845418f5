import GroupRoles.Service.Directory

/-!
# The process that calls the service

The expiry of a token is computed without a check. One that the clock cannot show is a panic: it
ends the process in the middle of the call that asked for the token. `process` is the directory
behind a service as such a process calls it; what would be called after a panic is not sent.
-/

namespace GroupRoles

/-- The failure that stands for a panic. -/
def Failure.panic : Failure := { cause := .service .beyondClock }

namespace Service

/-- The state of a process: its session, and whether a panic has ended it. -/
structure Process (σ : Type) where
  session : Session σ
  panicked : Bool := false

/-- Whether a call ended with a panic. -/
def isPanic {c : Call} : Reply c → Bool
  | .error failure => failure = .panic
  | .ok _ => false

/-- The directory behind a service, called by a process that a panic ends. -/
def process {σ : Type} (n : Http.Network σ) (s : Service) : Directory (Process σ) where
  answer c p :=
    if p.panicked then (.error .panic, p)
    else
      let (reply, session) := (directory n s).answer c p.session
      (reply, { session, panicked := isPanic reply })

end Service

end GroupRoles
