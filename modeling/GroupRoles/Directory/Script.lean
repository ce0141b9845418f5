import GroupRoles.Directory.Program

/-!
# A directory that follows a script

For each kind of call a script lists the replies to give, one for each call; the last one is
repeated. A kind without replies finds nothing, lists nothing and succeeds.
-/

namespace GroupRoles

/-- Replies still to give. -/
abbrev Queue (α : Type) := List (Except Failure α)

/-- The next reply, and the replies after it. -/
def Queue.next {α : Type} (default : α) : Queue α → Except Failure α × Queue α
  | [] => (pure default, [])
  | [reply] => (reply, [reply])
  | reply :: rest => (reply, rest)

/-- Replies for the realm and for clients. -/
structure Scoped (α : Type) where
  realm : Queue α := []
  client : Queue α := []

/-- The next reply for a scope. -/
def Scoped.next {α : Type} (default : α) (scope : Scope) (s : Scoped α) :
    Except Failure α × Scoped α :=
  match scope with
  | none =>
    let (reply, queue) := Queue.next default s.realm
    (reply, { s with realm := queue })
  | some _ =>
    let (reply, queue) := Queue.next default s.client
    (reply, { s with client := queue })

/-- Replies for all kinds of calls. -/
structure Script where
  group : Queue (Option Group) := []
  client : Queue (Option String) := []
  named : Scoped (Option Role) := {}
  mapped : Scoped (Option Role) := {}
  available : Scoped (List Role) := {}
  assigned : Scoped (List Role) := {}
  add : Queue Unit := []
  remove : Queue Unit := []

namespace Script

/-- The reply to a call, and the script after it. -/
def answer (c : Call) (s : Script) : Reply c × Script :=
  match c with
  | .group .. =>
    let (reply, group) := Queue.next none s.group
    (reply, { s with group })
  | .client .. =>
    let (reply, client) := Queue.next none s.client
    (reply, { s with client })
  | .role _ (.named scope _) =>
    let (reply, named) := s.named.next none scope
    (reply, { s with named })
  | .role _ (.mapped _ scope _) =>
    let (reply, mapped) := s.mapped.next none scope
    (reply, { s with mapped })
  | .available _ _ scope =>
    let (reply, available) := s.available.next [] scope
    (reply, { s with available })
  | .assigned _ _ scope =>
    let (reply, assigned) := s.assigned.next [] scope
    (reply, { s with assigned })
  | .change _ .present .. =>
    let (reply, add) := Queue.next () s.add
    (reply, { s with add })
  | .change _ .absent .. =>
    let (reply, remove) := Queue.next () s.remove
    (reply, { s with remove })

/-- The directory whose states are scripts. -/
def directory : Directory Script where
  answer := answer

end Script

end GroupRoles
