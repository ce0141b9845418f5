import GroupRoles.Role

/-!
# Reports

What one run did: the references it was given, the roles that were assigned before and after,
and the roles that it changed.
-/

namespace GroupRoles

/-- The assigned roles before and after a change. -/
structure Delta where
  before : List Role
  after : List Role
deriving Repr, DecidableEq

/-- The outcome of a run. -/
structure Report where
  changed : Bool
  message : String
  proposed : List RoleKey
  existing : List Role
  endState : List Role
  changes : List Role
  delta : Option Delta
deriving Repr, DecidableEq

/-- The two role lists. -/
def Delta.shape : Shape Delta :=
  .record "ReconciliationDiff" <|
    ((Fields.field "before" (.list Role.shape)).both
      (.field "after" (.list Role.shape))).build
      (fun (before, after) => ⟨before, after⟩) (fun d => (d.before, d.after))

/-- The fields of a report. -/
def Report.shape : Shape Report :=
  .record "ReconciliationResult" <|
    ((Fields.field "changed" .flag).both
      ((Fields.field "msg" .text).both
        ((Fields.field "proposed" (.list RoleKey.shape)).both
          ((Fields.field "existing" (.list Role.shape)).both
            ((Fields.field "end_state" (.list Role.shape)).both
              ((Fields.field "mutated" (.list Role.shape)).both
                (.optional "diff" Delta.shape))))))).build
      (fun (changed, message, proposed, existing, endState, changes, delta) =>
        ⟨changed, message, proposed, existing, endState, changes, delta⟩)
      (fun r => (r.changed, r.message, r.proposed, r.existing, r.endState, r.changes, r.delta))

end GroupRoles
