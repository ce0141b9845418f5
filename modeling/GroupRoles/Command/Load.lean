import GroupRoles.Command.Folder
import GroupRoles.Service.Directory
import GroupRoles.Settings
import GroupRoles.Shape.OfYaml

/-!
# Loading settings for a command

The options of a command may override parts of the request. The settings are checked with the
overrides in place.
-/

namespace GroupRoles

/-- What a command overrides; the flags only ever switch something on. -/
structure Overrides where
  dryRun : Bool := false
  wantDelta : Bool := false
  goal : Option Goal := none
  realm : Option String := none
deriving Repr, DecidableEq

/-- Why a settings file does not load. -/
inductive LoadFault where
  | file (fault : FileFault)
  | content (fault : Fault)
deriving Repr, DecidableEq

/-- Why a command fails. -/
inductive CommandFault where
  | load (path : String) (fault : LoadFault)
  | settings (path : String) (fault : SettingsFault)
  | roles (fault : ReferenceFault)
  /-- The connection of checked settings cannot be used. -/
  | connection (fault : ServiceFault)
  /-- The connection to run a request over cannot be used. -/
  | client (fault : ServiceFault)
  | run (problem : Problem)
  /-- A panic ended the process. -/
  | panicked
deriving Repr, DecidableEq

/-- The texts of a fault, from the outside in; the brief ones leave out what is wrong with the
content. -/
def LoadFault.chain (detail : Detail) : LoadFault → List String
  | file fault => ["IO error: " ++ fault.message, fault.message]
  | content fault =>
    match detail with
    | .brief => ["YAML parse error"]
    | .full => ["YAML parse error: " ++ fault.message, fault.message]

namespace CommandFault

/-- The texts of a fault, from the outside in. -/
def chain (detail : Detail) : CommandFault → List String
  | load path fault => ("Failed to load " ++ path) :: fault.chain detail
  | settings path fault => ["Invalid configuration in " ++ path, fault.message]
  | roles fault => ["Invalid role list", fault.message]
  | connection fault => "Invalid connection settings" :: fault.chain detail
  | client fault => "Failed to create Keycloak client" :: fault.chain detail
  | run problem => "Reconciliation failed" :: problem.chain detail
  | panicked => ServiceFault.beyondClock.chain detail

end CommandFault

/-- The request with the overrides in place. -/
def Overrides.apply (o : Overrides) (request : Request) : Request :=
  { request with
    dryRun := request.dryRun || o.dryRun
    wantDelta := request.wantDelta || o.wantDelta
    goal := o.goal.getD request.goal
    realm := o.realm.getD request.realm }

namespace Settings

/-- The settings in a file. -/
def ofFile (content : FileContent) : Except LoadFault Settings := do
  let bytes ← content.mapError .file
  match Text.Utf8.strict? bytes with
  | none => throw (.file .noText)
  | some text => (shape.ofYamlText text).mapError .content

/-- The checked settings in a file, with overrides. -/
def load (path : String) (content : FileContent) (env : Environment) (o : Overrides) :
    Except CommandFault Settings := do
  let settings ← (ofFile content).mapError (.load path)
  let settings := { settings with request := o.apply settings.request }
  (settings.check env).mapError (.settings path)
  pure settings

end Settings

end GroupRoles
