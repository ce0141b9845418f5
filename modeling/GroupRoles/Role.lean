import GroupRoles.Shape.Record

/-!
# Roles and references to them

A role has an id and a name. A caller refers to one by an entry with either or both; an entry
with neither refers to nothing. `RoleEntry.key` reads an entry and `RoleKey.entry` gives it
back.
-/

namespace GroupRoles

/-- A role of the directory. -/
structure Role where
  id : String
  name : String
deriving Repr, DecidableEq, Inhabited

/-- A role reference as a caller writes it. -/
structure RoleEntry where
  id : Option String := none
  name : Option String := none
deriving Repr, DecidableEq, Inhabited

/-- A role reference that identifies something. -/
inductive RoleKey where
  | byName (name : String)
  | byId (id : String)
  | known (role : Role)
deriving Repr, DecidableEq

/-- A reference that identifies nothing. -/
inductive ReferenceFault where
  | emptyGroup
  | emptyClient
  /-- The entry at this position of a role list. -/
  | emptyRole (index : Nat)
deriving Repr, DecidableEq

namespace ReferenceFault

/-- The text of a fault. -/
def message : ReferenceFault → String
  | emptyGroup => "either the group `name` or `id` has to be specified"
  | emptyClient => "either the client `client_id` or `id` has to be specified"
  | emptyRole index =>
    s!"either `name` or `id` has to be specified on each role (role #{index})"

end ReferenceFault

namespace RoleEntry

/-- The reference that an entry stands for. -/
def key? : RoleEntry → Option RoleKey
  | ⟨some id, some name⟩ => some (.known ⟨id, name⟩)
  | ⟨some id, none⟩ => some (.byId id)
  | ⟨none, some name⟩ => some (.byName name)
  | ⟨none, none⟩ => none

/-- The references of a list of entries from position `index` on; the first empty entry is
reported. -/
def keysFrom (index : Nat) : List RoleEntry → Except ReferenceFault (List RoleKey)
  | [] => pure []
  | entry :: rest =>
    match entry.key? with
    | none => throw (.emptyRole index)
    | some key => do
      let keys ← keysFrom (index + 1) rest
      pure (key :: keys)

/-- The references of a list of entries; the first empty entry is reported. -/
def keys (entries : List RoleEntry) : Except ReferenceFault (List RoleKey) :=
  keysFrom 0 entries

end RoleEntry

namespace RoleKey

/-- The entry that stands for a reference. -/
def entry : RoleKey → RoleEntry
  | byName name => ⟨none, some name⟩
  | byId id => ⟨some id, none⟩
  | known role => ⟨some role.id, some role.name⟩

/-- The name, when it is known. -/
def name? (key : RoleKey) : Option String :=
  key.entry.name

/-- The id, when it is known. -/
def id? (key : RoleKey) : Option String :=
  key.entry.id

/-- How a reference is shown: by its name when that is known. -/
def label : RoleKey → String
  | byName name => name
  | byId id => "id:" ++ id
  | known role => role.name

/-- An entry gives back the reference it was made from. -/
@[simp]
theorem key?_entry (key : RoleKey) : key.entry.key? = some key := by
  cases key <;> rfl

end RoleKey

/-! ## Shapes -/

/-- A role with its id and name. -/
def Role.shape : Shape Role :=
  .record "ResolvedRole" <|
    ((Fields.field "id" .text).both (.field "name" .text)).build
      (fun (id, name) => ⟨id, name⟩) (fun r => (r.id, r.name))

/-- A role entry. -/
def RoleEntry.shape : Shape RoleEntry :=
  .record "RoleSpec" <|
    ((Fields.optional "id" .text).both (.optional "name" .text)).build
      (fun (id, name) => ⟨id, name⟩) (fun e => (e.id, e.name))

/-- A role entry that is not empty. -/
def RoleKey.shape : Shape RoleKey :=
  .checked RoleEntry.shape
    (fun e => match e.key? with
      | some key => pure key
      | none => throw (ReferenceFault.emptyRole 0).message)
    RoleKey.entry

end GroupRoles
