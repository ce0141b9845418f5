import GroupRoles.Command.Load

/-!
# Checking settings without the directory
-/

namespace GroupRoles

/-- What checked settings will do. -/
structure Overview where
  realm : String
  group : String
  client : Option String
  /-- How many roles are listed, if any are. -/
  roles : Option Nat
  auth : String
deriving Repr, DecidableEq

namespace Overview

/-- A reference by its name if it has one. -/
def describe (name id : Option String) : String :=
  match name, id with
  | some name, _ => s!"'{name}'"
  | none, some id => s!"id '{id}'"
  | none, none => "<unset>"

/-- The kind of credentials. -/
def authName : Credentials → String
  | .token _ => "token"
  | .password _ => "password grant"

/-- What settings will do, if role list and connection can be used. -/
def ofSettings (settings : Settings) (env : Environment) : Except CommandFault Overview := do
  let request := settings.request
  let keys ← request.roleKeys.mapError .roles
  let service ← (Service.ofConnection settings.connection env).mapError .connection
  pure
    { realm := request.realm
      group := describe request.group.name request.group.id
      client := request.client.map fun c => describe c.clientId c.id
      roles := keys.map List.length
      auth := authName service.credentials }

/-- The line that tells what settings will do. -/
def text (o : Overview) : String :=
  s!"realm '{o.realm}', group {o.group}"
    ++ (match o.client with
      | some client => s!", client {client}"
      | none => "")
    ++ (match o.roles with
      | some n => s!", {n} role(s)"
      | none => ", no roles")
    ++ s!", {o.auth} auth"

/-- What the settings in a file will do. -/
def ofFile (path : String) (content : FileContent) (env : Environment) :
    Except CommandFault Overview := do
  let settings ← Settings.load path content env {}
  ofSettings settings env

end Overview

end GroupRoles
