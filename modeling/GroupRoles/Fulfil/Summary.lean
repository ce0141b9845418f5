import GroupRoles.Fulfil.Change
import GroupRoles.Fulfil.Target
import GroupRoles.Report

/-!
# What a run reports
-/

namespace GroupRoles

/-- The names of roles between brackets. -/
def Role.listText (roles : List Role) : String :=
  "[" ++ String.intercalate ", " (roles.map Role.name) ++ "]"

/-- The assigned roles as they would be after changes. -/
def Goal.predict (goal : Goal) (existing changes : List Role) : List Role :=
  match goal with
  | .present => existing ++ Role.firstOfNames (existing.map Role.name) changes
  | .absent => existing.filter fun role => !Role.hasName changes role.name

/-- The line that tells what became of the changes. -/
def Goal.summary (goal : Goal) (group : GroupTarget) (desired changes : List Role) :
    Effect → String
  | .nothing =>
    s!"Nothing to do, roles {Role.listText desired} are correctly mapped to group {group.label}."
  | .previewed =>
    let verb := match goal with
      | .present => "assigned to"
      | .absent => "removed from"
    s!"Roles {Role.listText changes} would be {verb} group {group.label}."
  | .applied _ =>
    let verb := match goal with
      | .present => "assigned to"
      | .absent => "removed from"
    s!"Roles {Role.listText changes} {verb} group {group.label}."

namespace Report

/-- The report of a request that names no roles. -/
def nothingSpecified : Report where
  changed := false
  message := "Nothing to do (no roles specified)."
  proposed := []
  existing := []
  endState := []
  changes := []
  delta := none

/-- The assigned roles after a run, as far as they are known: read again, or predicted. -/
def after (goal : Goal) (existing changes : List Role) : Effect → Option (List Role)
  | .nothing => none
  | .previewed => some (goal.predict existing changes)
  | .applied endState => some endState

/-- The report of a run. -/
def of (group : GroupTarget) (goal : Goal) (wantDelta : Bool) (proposed : List RoleKey)
    (desired existing changes : List Role) (effect : Effect) : Report where
  changed := effect.changed
  message := goal.summary group desired changes effect
  proposed
  existing
  endState := match effect with
    | .applied endState => endState
    | _ => existing
  changes
  delta :=
    if wantDelta then (after goal existing changes effect).map (⟨existing, ·⟩) else none

end Report

end GroupRoles
