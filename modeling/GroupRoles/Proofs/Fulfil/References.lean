import GroupRoles.Fulfil.Run

/-!
# The references of a request

`Request.references` are the role references that a request gives, empty entries left out. On a
request that passes `Request.checkReferences` nothing is left out. How references are settled by
replies is told by `RoleKey.settleAll_cons`.
-/

namespace GroupRoles

/-- The role references of a request. -/
def Request.references (request : Request) : List RoleKey :=
  (request.roles.getD []).filterMap RoleEntry.key?

namespace RoleEntry

/-- An entry stands for nothing when it has neither an id nor a name. -/
theorem isNone_key? (entry : RoleEntry) :
    entry.key?.isNone = (entry.id.isNone && entry.name.isNone) := by
  obtain ⟨id, name⟩ := entry
  cases id <;> cases name <;> rfl

/-- Entries are read one by one, up to the first that stands for nothing. -/
theorem keysFrom_eq (index : Nat) (entries : List RoleEntry) :
    keysFrom index entries =
      match entries.findIdx? (·.key?.isNone) with
      | some i => .error (.emptyRole (index + i))
      | none => .ok (entries.filterMap key?) := by
  induction entries generalizing index with
  | nil => rfl
  | cons entry rest ih =>
    rw [keysFrom, List.findIdx?_cons]
    cases hkey : entry.key? with
    | none => rfl
    | some key =>
      -- the positions of the rest are counted from the next one on
      simp only [ih, List.filterMap_cons_some hkey, Option.isNone_some, Bool.false_eq_true,
        if_false]
      cases rest.findIdx? (·.key?.isNone) with
      | none => rfl
      | some i =>
        simp only [Option.map_some]
        rw [Nat.add_right_comm]
        rfl

end RoleEntry

namespace RoleKey

theorem exists_eq_known {group : String} {scope : Scope} {key : RoleKey}
    (h : key.query? group scope = none) : ∃ role, key = known role := by
  cases key with
  | known role => exact ⟨role, rfl⟩
  | byName name => cases h
  | byId id => cases h

theorem ne_known {group : String} {scope : Scope} {key : RoleKey} {query : RoleQuery}
    (h : key.query? group scope = some query) (role : Role) : key ≠ known role := by
  rintro rfl
  cases h

/-- What settling does with a reference that was looked up. -/
theorem settleAll_cons {place : Place} {key : RoleKey} {keys : List RoleKey}
    (replies : List (Except Failure (Option Role))) (h : ∀ role, key ≠ known role) :
    settleAll place (key :: keys) replies =
      (do let role ← settle place key (replies.headD (.ok none))
          let roles ← settleAll place keys replies.tail
          pure (role :: roles)) := by
  cases key with
  | known role => exact absurd rfl (h role)
  | byName name => rfl
  | byId id => rfl

/-- The roles that replies settle do not hang on the place that a problem would name. -/
theorem settleAll_eq_ok {place : Place} {keys : List RoleKey}
    {replies : List (Except Failure (Option Role))} {roles : List Role} (other : Place)
    (h : settleAll place keys replies = .ok roles) : settleAll other keys replies = .ok roles := by
  induction keys generalizing replies roles with
  | nil => exact h
  | cons key keys ih =>
    by_cases hknown : ∃ role, key = known role
    · obtain ⟨role, rfl⟩ := hknown
      rw [settleAll] at h ⊢
      cases hrest : settleAll place keys replies with
      | error problem =>
        rw [hrest] at h
        cases h
      | ok rest =>
        rw [hrest] at h
        rw [ih hrest]
        exact h
    · -- a reply settles the reference, and only a problem would name the place
      rw [settleAll_cons _ fun role he => hknown ⟨role, he⟩] at h ⊢
      match hreply : replies.headD (.ok none) with
      | .error failure | .ok none =>
        rw [hreply] at h
        cases h
      | .ok (some found) =>
        rw [hreply] at h
        cases hrest : settleAll place keys replies.tail with
        | error problem =>
          rw [hrest] at h
          cases h
        | ok rest =>
          rw [hrest] at h
          rw [ih hrest]
          exact h

end RoleKey

namespace Request

/-- The role entries of a request are read up to the first that is empty. -/
theorem roleKeys_eq (request : Request) :
    request.roleKeys =
      match (request.roles.getD []).findIdx? fun entry =>
        entry.id.isNone && entry.name.isNone with
      | some index => .error (.emptyRole index)
      | none => .ok (request.roles.map fun _ => request.references) := by
  unfold roleKeys references
  cases request.roles with
  | none => rfl
  | some entries =>
    simp only [RoleEntry.keys, RoleEntry.keysFrom_eq, RoleEntry.isNone_key?, Option.getD_some,
      Nat.zero_add]
    cases entries.findIdx? fun entry => entry.id.isNone && entry.name.isNone <;> rfl

theorem roleKeys_eq_ok {request : Request} {keys : Option (List RoleKey)}
    (h : request.roleKeys = .ok keys) : keys = request.roles.map fun _ => request.references := by
  rw [roleKeys_eq] at h
  split at h
  · cases h
  · cases h
    rfl

/-- What a request that passes its check is known to give. -/
theorem checkReferences_eq_ok {request : Request} {keys : Option (List RoleKey)}
    (h : request.checkReferences = .ok keys) :
    request.group.check = .ok () ∧ (∀ client ∈ request.client, client.check = .ok ()) ∧
      keys = request.roles.map fun _ => request.references := by
  unfold checkReferences at h
  cases hgroup : request.group.check with
  | error fault => simp [hgroup, bind, Except.bind] at h
  | ok _ =>
    cases hclient : request.client with
    | none =>
      simp only [hgroup, hclient, bind, Except.bind] at h
      exact ⟨rfl, by simp, roleKeys_eq_ok h⟩
    | some client =>
      cases hcheck : client.check with
      | error fault => simp [hgroup, hclient, hcheck, bind, Except.bind] at h
      | ok _ =>
        simp only [hgroup, hclient, hcheck, bind, Except.bind] at h
        refine ⟨rfl, ?_, roleKeys_eq_ok h⟩
        intro other hother
        rw [Option.mem_some_iff] at hother
        rw [← hother, hcheck]

end Request

end GroupRoles
