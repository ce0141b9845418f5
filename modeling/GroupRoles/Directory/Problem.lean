import GroupRoles.Directory.Call

/-!
# Why a run ends without a report
-/

namespace GroupRoles

/-- What a lookup was for. -/
inductive EntityKind where
  | group
  | client
  | role
deriving Repr, DecidableEq

/-- What a lookup went by. -/
inductive Handle where
  | name (name : String)
  | id (id : String)
deriving Repr, DecidableEq

/-- Where a lookup was made, as people know it. -/
inductive Place where
  | realm (realm : String)
  | client (client realm : String)
deriving Repr, DecidableEq

/-- Why a run ends without a report. -/
inductive Problem where
  /-- A reference identifies nothing. -/
  | reference (fault : ReferenceFault)
  /-- A lookup found nothing. -/
  | notFound (kind : EntityKind) (handle : Handle) (place : Place)
  /-- The directory failed. -/
  | directory (failure : Failure)
deriving Repr, DecidableEq

/-- The word for a kind. -/
def EntityKind.name : EntityKind → String
  | group => "group"
  | client => "client"
  | role => "role"

/-- How a handle is shown. -/
def Handle.describe : Handle → String
  | name s => s!"name '{s}'"
  | id s => s!"id '{s}'"

/-- How a place is shown. -/
def Place.describe : Place → String
  | realm r => s!"realm '{r}'"
  | client c r => s!"client '{c}' of realm '{r}'"

namespace Problem

/-- Whether a lookup found nothing. -/
def isNotFound : Problem → Bool
  | notFound .. => true
  | _ => false

/-- The text of a problem. -/
def message (detail : Detail) : Problem → String
  | reference fault => "invalid input: " ++ fault.message
  | notFound kind handle place =>
    s!"{kind.name} with {handle.describe} not found in {place.describe}"
  | directory failure => "directory service failure: " ++ failure.line detail

/-- The texts of a problem and of what caused it. -/
def chain (detail : Detail) (problem : Problem) : List String :=
  problem.message detail ::
    match problem with
    | directory failure => failure.chain detail
    | _ => []

end Problem

end GroupRoles
