import GroupRoles.Connection
import GroupRoles.Request
import GroupRoles.Text.Blank

/-!
# Settings

A connection and the request to run through it. `Settings.check` finds whatever can be found
without the directory, empty role entries apart.
-/

namespace GroupRoles

/-- A connection and a request. -/
structure Settings where
  connection : Connection
  request : Request
deriving Repr, DecidableEq

namespace Settings

/-- The fields of settings. -/
def shape : Shape Settings :=
  .record "RolemapConfig" <|
    ((Fields.field "connection" Connection.shape).both
      (.field "request" Request.shape)).build
      (fun (connection, request) => ⟨connection, request⟩)
      (fun s => (s.connection, s.request))

/-- The settings can be used. -/
def check (s : Settings) (env : Environment) : Except SettingsFault Unit := do
  if Text.isAllBlank s.connection.baseUrl then throw .emptyBaseUrl
  let _ ← s.connection.credentials env
  s.request.group.check.mapError .reference
  match s.request.client with
  | some client => client.check.mapError .reference
  | none => pure ()
  if Text.isAllBlank s.request.realm then throw .emptyRealm

end Settings

end GroupRoles
