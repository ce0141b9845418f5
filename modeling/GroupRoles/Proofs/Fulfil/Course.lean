import GroupRoles.Fulfil.Run
import GroupRoles.Proofs.Directory.Trace

/-!
# How each part of a run can go

One relation for each part of a run: the events that it can show and the result that each leads
to, one constructor for each way out. The lemma beside it says that every trace of the part is of
this kind, so that nothing later has to open the programs again.
-/

namespace GroupRoles

open Program

variable {events : List Event}

/-! ## The group -/

/-- How finding a group can go. -/
inductive GroupKey.Course (realm : String) :
    GroupKey → List Event → Except Problem GroupTarget → Prop where
  | given (id : String) (name : Option String) : Course realm ⟨some id, name⟩ [] (.ok ⟨id, name⟩)
  | found (name : String) (group : Group) :
      Course realm ⟨none, some name⟩ [⟨.group realm name, .ok (some group)⟩]
        (.ok ⟨group.id, some group.name⟩)
  | missing (name : String) :
      Course realm ⟨none, some name⟩ [⟨.group realm name, .ok none⟩]
        (.error (.notFound .group (.name name) (.realm realm)))
  | refused (name : String) (failure : Failure) :
      Course realm ⟨none, some name⟩ [⟨.group realm name, .error failure⟩]
        (.error (.directory failure))

theorem GroupKey.course_of_trace {realm : String} {key : GroupKey}
    {result : Except Problem GroupTarget} (hkey : key.check = .ok ())
    (h : Trace (key.find realm) events result) : key.Course realm events result := by
  match key with
  | ⟨some id, name⟩ =>
    obtain ⟨rfl, rfl⟩ := h.of_done
    exact .given id name
  | ⟨none, none⟩ => cases hkey
  | ⟨none, some name⟩ =>
    rcases Trace.of_call_bind h with ⟨failure, rfl, rfl⟩ | ⟨found, rest, hrest, rfl⟩
    · exact .refused name failure
    · cases found with
      | none =>
        obtain ⟨rfl, rfl⟩ := hrest.of_fail
        exact .missing name
      | some group =>
        obtain ⟨rfl, rfl⟩ := hrest.of_done
        exact .found name group

/-! ## The client -/

/-- How finding a client can go, if one is given. -/
inductive ClientKey.Course (realm : String) :
    Option ClientKey → List Event → Except Problem (Option ClientTarget) → Prop where
  | absent : Course realm none [] (.ok none)
  | given (id : String) (clientId : Option String) :
      Course realm (some ⟨some id, clientId⟩) [] (.ok (some ⟨id, clientId⟩))
  | found (clientId id : String) :
      Course realm (some ⟨none, some clientId⟩) [⟨.client realm clientId, .ok (some id)⟩]
        (.ok (some ⟨id, some clientId⟩))
  | missing (clientId : String) :
      Course realm (some ⟨none, some clientId⟩) [⟨.client realm clientId, .ok none⟩]
        (.error (.notFound .client (.name clientId) (.realm realm)))
  | refused (clientId : String) (failure : Failure) :
      Course realm (some ⟨none, some clientId⟩) [⟨.client realm clientId, .error failure⟩]
        (.error (.directory failure))

theorem ClientKey.course_of_trace {realm : String} {client : Option ClientKey}
    {result : Except Problem (Option ClientTarget)}
    (hkey : ∀ key ∈ client, key.check = .ok ())
    (h : Trace (ClientKey.find? realm client) events result) :
    ClientKey.Course realm client events result := by
  match client with
  | none =>
    obtain ⟨rfl, rfl⟩ := h.of_done
    exact .absent
  | some key =>
    obtain ⟨before, hfind, rfl⟩ := Trace.of_map h
    match key with
    | ⟨some id, clientId⟩ =>
      obtain ⟨rfl, rfl⟩ := hfind.of_done
      exact .given id clientId
    | ⟨none, none⟩ => cases hkey _ rfl
    | ⟨none, some clientId⟩ =>
      rcases Trace.of_call_bind hfind with ⟨failure, rfl, rfl⟩ | ⟨found, rest, hrest, rfl⟩
      · exact .refused clientId failure
      · cases found with
        | none =>
          obtain ⟨rfl, rfl⟩ := hrest.of_fail
          exact .missing clientId
        | some id =>
          obtain ⟨rfl, rfl⟩ := hrest.of_done
          exact .found clientId id

/-! ## The roles -/

/-- All lookups of roles are made, and their replies settle the result. -/
theorem RoleKey.course_of_trace {realm group : String} {client : Option ClientTarget}
    {keys : List RoleKey} {result : Except Problem (List Role)}
    (h : Trace (RoleKey.findAll realm group client keys) events result) :
    ∃ replies : List (Except Failure (Option Role)),
      replies.length = (keys.filterMap (query? group (ClientTarget.scope client))).length ∧
      events = Directory.lookUpEvents realm
        (keys.filterMap (query? group (ClientTarget.scope client))) replies ∧
      result = settleAll (ClientTarget.place realm client) keys replies := by
  cases h with
  | @gathered _ _ _ replies _ _ hlen rest =>
    refine ⟨replies, hlen, ?_⟩
    dsimp only at rest
    split at rest
    · next roles hsettle =>
      obtain ⟨rfl, rfl⟩ := rest.of_done
      exact ⟨List.append_nil _, hsettle.symm⟩
    · next problem hsettle =>
      obtain ⟨rfl, rfl⟩ := rest.of_fail
      exact ⟨List.append_nil _, hsettle.symm⟩

/-! ## The survey -/

/-- How reading a survey can go. -/
inductive Survey.Course (realm group : String) (scope : Scope) :
    List Event → Except Problem Survey → Prop where
  | read (available assigned : List Role) :
      Course realm group scope
        [⟨.available realm group scope, .ok available⟩, ⟨.assigned realm group scope, .ok assigned⟩]
        (.ok ⟨available, assigned⟩)
  | availableRefused (failure : Failure) :
      Course realm group scope [⟨.available realm group scope, .error failure⟩]
        (.error (.directory failure))
  | assignedRefused (available : List Role) (failure : Failure) :
      Course realm group scope
        [⟨.available realm group scope, .ok available⟩,
          ⟨.assigned realm group scope, .error failure⟩]
        (.error (.directory failure))

theorem Survey.course_of_trace {realm group : String} {scope : Scope}
    {result : Except Problem Survey} (h : Trace (Survey.read realm group scope) events result) :
    Survey.Course realm group scope events result := by
  rcases Trace.of_call_bind h with ⟨failure, rfl, rfl⟩ | ⟨available, rest, hrest, rfl⟩
  · exact .availableRefused failure
  rcases Trace.of_call_bind hrest with ⟨failure, rfl, rfl⟩ | ⟨assigned, rest, hdone, rfl⟩
  · exact .assignedRefused available failure
  obtain ⟨rfl, rfl⟩ := hdone.of_done
  exact .read available assigned

/-! ## The changes -/

/-- How making changes can go. -/
inductive Goal.Course (goal : Goal) (realm group : String) (scope : Scope) (changes : List Role)
    (dryRun : Bool) : List Event → Except Problem Effect → Prop where
  | nothing (hnone : changes = []) :
      Course goal realm group scope changes dryRun [] (.ok .nothing)
  | previewed (hsome : changes ≠ []) (hdry : dryRun = true) :
      Course goal realm group scope changes dryRun [] (.ok .previewed)
  | refused (hsome : changes ≠ []) (hlive : dryRun = false) (failure : Failure) :
      Course goal realm group scope changes dryRun
        [⟨.change realm goal group scope changes, .error failure⟩] (.error (.directory failure))
  | unread (hsome : changes ≠ []) (hlive : dryRun = false) (failure : Failure) :
      Course goal realm group scope changes dryRun
        [⟨.change realm goal group scope changes, .ok ()⟩,
          ⟨.assigned realm group scope, .error failure⟩]
        (.error (.directory failure))
  | applied (hsome : changes ≠ []) (hlive : dryRun = false) (endState : List Role) :
      Course goal realm group scope changes dryRun
        [⟨.change realm goal group scope changes, .ok ()⟩,
          ⟨.assigned realm group scope, .ok endState⟩]
        (.ok (.applied endState))

theorem Goal.course_of_trace {goal : Goal} {realm group : String} {scope : Scope}
    {changes : List Role} {dryRun : Bool} {result : Except Problem Effect}
    (h : Trace (goal.apply realm group scope changes dryRun) events result) :
    goal.Course realm group scope changes dryRun events result := by
  unfold Goal.apply at h
  split at h
  · next hnone =>
    obtain ⟨rfl, rfl⟩ := h.of_done
    exact .nothing (List.isEmpty_iff.mp hnone)
  next hsome =>
  have hsome : changes ≠ [] := fun hc => hsome (List.isEmpty_iff.mpr hc)
  split at h
  · next hdry =>
    obtain ⟨rfl, rfl⟩ := h.of_done
    exact .previewed hsome hdry
  next hlive =>
  have hlive : dryRun = false := Bool.eq_false_iff.mpr hlive
  rcases Trace.of_call_bind h with ⟨failure, rfl, rfl⟩ | ⟨⟨⟩, rest, hrest, rfl⟩
  · exact .refused hsome hlive failure
  rcases Trace.of_call_bind hrest with ⟨failure, rfl, rfl⟩ | ⟨endState, rest, hdone, rfl⟩
  · exact .unread hsome hlive failure
  obtain ⟨rfl, rfl⟩ := hdone.of_done
  exact .applied hsome hlive endState

end GroupRoles
