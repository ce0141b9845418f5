import GroupRoles.Goal
import GroupRoles.Http.Fault
import GroupRoles.Reference

/-!
# Calls to a directory

What a directory is asked, and what it may answer. Roles live in a scope, the realm or one of
its clients, and every call names its realm.
-/

namespace GroupRoles

/-- The internal id of a client, or `none` for the realm itself. -/
abbrev Scope := Option String

/-- A question for one role. -/
inductive RoleQuery where
  /-- The role of the scope with this name. -/
  | named (scope : Scope) (name : String)
  /-- The role of the scope with this id, if it is mapped to the group. -/
  | mapped (group : String) (scope : Scope) (id : String)
deriving Repr, DecidableEq

/-- A call to a directory. -/
inductive Call where
  /-- The group with this name. -/
  | group (realm name : String)
  /-- The internal id of the client with this client id. -/
  | client (realm clientId : String)
  | role (realm : String) (query : RoleQuery)
  /-- The roles of the scope that are not mapped to the group. -/
  | available (realm group : String) (scope : Scope)
  /-- The roles that the group has, also through other roles. -/
  | assigned (realm group : String) (scope : Scope)
  /-- Maps all the roles to the group, or unmaps them. -/
  | change (realm : String) (goal : Goal) (group : String) (scope : Scope) (roles : List Role)
deriving Repr, DecidableEq

namespace Call

/-- What a successful call answers. -/
abbrev Answer : Call → Type
  | group .. => Option Group
  | client .. => Option String
  | role .. => Option Role
  | available .. => List Role
  | assigned .. => List Role
  | change .. => Unit

/-- The realm of a call. -/
def realm : Call → String
  | group realm _ | client realm _ | role realm _ | available realm _ _ | assigned realm _ _
  | change realm _ _ _ _ => realm

/-- A call that changes mappings. -/
def isChange : Call → Bool
  | change .. => true
  | _ => false

end Call

/-- The innermost cause of a failed call. -/
inductive Cause where
  | unknownRealm (realm : String)
  | unknownRole (role : Role)
  | service (fault : ServiceFault)
  | transport (fault : TransportFault)
  | other (text : String)
deriving Repr, DecidableEq

/-- Why a call failed: a cause, and what was being done, the outermost first. -/
structure Failure where
  contexts : List String := []
  cause : Cause
deriving Repr, DecidableEq

namespace Cause

/-- The texts of a cause. -/
def chain (detail : Detail) : Cause → List String
  | unknownRealm realm => [s!"realm '{realm}' does not exist"]
  | unknownRole role => [s!"role '{role.name}' ({role.id}) does not exist"]
  | service fault => fault.chain detail
  | transport fault =>
    match detail with
    | .brief => []
    | .full => fault.chain
  | other text => [text]

end Cause

namespace Failure

/-- The texts of a failure. -/
def chain (detail : Detail) (failure : Failure) : List String :=
  failure.contexts ++ failure.cause.chain detail

/-- The texts of a failure on one line. -/
def line (detail : Detail) (failure : Failure) : String :=
  String.intercalate ": " (failure.chain detail)

end Failure

/-- The answer to a call, or why there is none. -/
abbrev Reply (c : Call) := Except Failure c.Answer

/-- A call with its reply. -/
structure Event where
  call : Call
  reply : Reply call

end GroupRoles
