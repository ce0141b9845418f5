import GroupRoles.Goal
import GroupRoles.Reference

/-!
# Requests

One request: which roles of which group, in the realm or in one of its clients, are to be
assigned or not.
-/

namespace GroupRoles

/-- A request; `roles = none` says that it names no roles at all. -/
structure Request where
  realm : String := defaultRealm
  goal : Goal := .present
  group : GroupKey
  client : Option ClientKey := none
  roles : Option (List RoleEntry) := none
  /-- Whether the changes are only shown. -/
  dryRun : Bool := false
  /-- Whether the report holds the role lists before and after. -/
  wantDelta : Bool := false
deriving Repr, DecidableEq, Inhabited

namespace Request

/-- The references of the roles, when the request names any. -/
def roleKeys (request : Request) : Except ReferenceFault (Option (List RoleKey)) :=
  match request.roles with
  | none => pure none
  | some entries => some <$> RoleEntry.keys entries

/-- The fields of a request. -/
def shape : Shape Request :=
  .record "ReconcileRequest" <|
    ((Fields.field "realm" .text (some defaultRealm)).both
      ((Fields.field "intent" Goal.shape (some .present) ["state"]).both
        ((Fields.field "group" GroupKey.shape).both
          ((Fields.optional "client" ClientKey.shape).both
            ((Fields.optional "roles" (.list RoleEntry.shape)).both
              ((Fields.field "dry_run" .flag (some false)).both
                (.field "want_diff" .flag (some false)))))))).build
      (fun (realm, goal, group, client, roles, dryRun, wantDelta) =>
        ⟨realm, goal, group, client, roles, dryRun, wantDelta⟩)
      (fun r => (r.realm, r.goal, r.group, r.client, r.roles, r.dryRun, r.wantDelta))

end Request

end GroupRoles
