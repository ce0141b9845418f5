import GroupRoles.Directory.Program

/-!
# Finding and making changes

A survey lists the roles that could be assigned to a group and those that it has. The changes
for a goal are the desired roles that the survey shows to concern it, by name. Making them is
one call for all.
-/

namespace GroupRoles

/-- The roles that could be assigned to a group, and those that it has. -/
structure Survey where
  available : List Role
  assigned : List Role
deriving Repr, DecidableEq

/-- What became of the changes. -/
inductive Effect where
  /-- There were none. -/
  | nothing
  /-- They were only found. -/
  | previewed
  /-- They were made; the assigned roles were read again. -/
  | applied (endState : List Role)
deriving Repr, DecidableEq

/-- Whether there were changes. -/
def Effect.changed : Effect → Bool
  | nothing => false
  | _ => true

/-- Reads both lists of a survey. -/
def Survey.read (realm group : String) (scope : Scope) : Program Survey := do
  let available ← Program.call (.available realm group scope)
  let assigned ← Program.call (.assigned realm group scope)
  pure ⟨available, assigned⟩

/-- The roles of a survey that a goal is concerned with. -/
def Survey.concerned (survey : Survey) : Goal → List Role
  | .present => survey.available
  | .absent => survey.assigned

namespace Role

/-- Whether a name is the name of one of the roles. -/
def hasName (roles : List Role) (name : String) : Bool :=
  roles.any (·.name = name)

/-- The first role of each name that is not among those seen. -/
def firstOfNames (seen : List String) : List Role → List Role
  | [] => []
  | role :: rest =>
    if seen.contains role.name then firstOfNames seen rest
    else role :: firstOfNames (role.name :: seen) rest

end Role

/-- The desired roles to change: those whose name the survey shows, each name once. -/
def Goal.changes (goal : Goal) (survey : Survey) (desired : List Role) : List Role :=
  Role.firstOfNames [] (desired.filter fun role =>
    Role.hasName (survey.concerned goal) role.name)

/-- Makes changes, unless there are none or they are only to be shown. -/
def Goal.apply (goal : Goal) (realm group : String) (scope : Scope) (changes : List Role)
    (dryRun : Bool) : Program Effect :=
  if changes.isEmpty then .done .nothing
  else if dryRun then .done .previewed
  else do
    let _ ← Program.call (.change realm goal group scope changes)
    let endState ← Program.call (.assigned realm group scope)
    pure (.applied endState)

end GroupRoles
