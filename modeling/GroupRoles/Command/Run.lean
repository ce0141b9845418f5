import GroupRoles.Command.Args
import GroupRoles.Command.Validate
import GroupRoles.Fulfil.Run
import GroupRoles.Service.Process

/-!
# Running a command

A command prints what it did and exits with 0, or prints why it failed and exits with 1.
Arguments that cannot be understood exit with 2, and a process that a panic ends exits with 101.
-/

namespace GroupRoles

/-- What a finished command leaves behind. -/
structure Finish where
  exit : Nat
  stdout : String := ""
  stderr : String := ""
deriving Repr, DecidableEq

namespace CommandFault

/-- A text whose further lines are indented. -/
def indentLines (margin : String) (text : String) : String :=
  String.intercalate ("\n" ++ margin) (text.splitOn "\n")

/-- A number at the right end of five columns. -/
def numberText (n : Nat) : String :=
  let digits := toString n
  String.ofList (List.replicate (5 - digits.length) ' ') ++ digits ++ ": "

/-- One cause of a failure; several causes are numbered. -/
def causeText (number : Option Nat) (text : String) : String :=
  match number with
  | none => "    " ++ indentLines "    " text
  | some n => numberText n ++ indentLines "       " text

/-- The causes of a failure, each on lines of its own. -/
def causesText : List String → String
  | [] => ""
  | [cause] => "\n\nCaused by:\n" ++ causeText none cause
  | causes =>
    "\n\nCaused by:"
      ++ String.join (causes.mapIdx fun i cause => "\n" ++ causeText (some i) cause)

/-- What is printed for a failure. -/
def report (fault : CommandFault) : String :=
  match fault.chain .full with
  | [] => ""
  | text :: causes => "Error: " ++ text ++ causesText causes ++ "\n"

end CommandFault

/-- The version line. -/
def versionText : String := "rolemap 0.1.0\n"

namespace Command

/-- The settings file of a command. -/
def path : Command → String
  | apply path _ | validate path => path

/-- Runs a request on a service over a network. Role lookups that are made together reach the
network here one after the other, each with its answer: it is left out that their requests can be
under way at once, so that a lookup may still show a token that another one has just lost. -/
def fulfil {σ : Type} (n : Http.Network σ) (service : Service) (request : Request) (network : σ) :
    Outcome (Service.Process σ) Report :=
  request.fulfil.run (Service.process n service) { session := { network } }

/-- What a run over a network comes to: its report, unless it failed or a panic ended it. -/
def conclude {σ : Type} (outcome : Outcome (Service.Process σ) Report) :
    Except CommandFault Report :=
  if outcome.state.panicked then throw .panicked else outcome.result.mapError .run

/-- What a command prints, given its settings file. -/
def execute {σ : Type} (n : Http.Network σ) (content : FileContent) (env : Environment)
    (c : Command) (network : σ) : Except CommandFault String × σ :=
  match c with
  | validate path =>
    ((Overview.ofFile path content env).map fun o => s!"Configuration OK: {o.text}\n", network)
  | apply path overrides =>
    let prepared : Except CommandFault (Service × Request) := do
      let settings ← Settings.load path content env overrides
      let service ← (Service.ofConnection settings.connection env).mapError .client
      pure (service, settings.request)
    match prepared with
    | .error fault => (throw fault, network)
    | .ok (service, request) =>
      let outcome := fulfil n service request network
      ((conclude outcome).map fun report => (Report.shape.write report).prettyText ++ "\n",
        outcome.state.session.network)

end Command

/-- How a command ends. Of what is printed for a panic only the message is told, without its place
in the program. -/
def Finish.of : Except CommandFault String → Finish
  | .ok stdout => { exit := 0, stdout }
  | .error .panicked => { exit := 101, stderr := ServiceFault.beyondClock.message .full ++ "\n" }
  | .error fault => { exit := 1, stderr := fault.report }

/-- How an invocation ends; `read` gives the file of a path. The text that is printed for help is
left out. -/
def Invocation.finish {σ : Type} (n : Http.Network σ) (read : String → FileContent)
    (env : Environment) (i : Option Invocation) (network : σ) : Finish × σ :=
  match i with
  | none => ({ exit := 2 }, network)
  | some .version => ({ exit := 0, stdout := versionText }, network)
  | some .help => ({ exit := 0 }, network)
  | some (.command c) =>
    let (result, network) := c.execute n (read c.path) env network
    (Finish.of result, network)

end GroupRoles
