import GroupRoles.Proofs.Fulfil.Plan
import GroupRoles.Proofs.Fulfil.Protocol

/-!
# Where failures of a run come from

A run goes on with answers only, and blames the directory only for what a call failed with
(`Program.Heeds`). So a run with a report has met no failed call, and a run that the directory ends
names the failure of one of its calls.
-/

namespace GroupRoles

open Program

namespace Program

variable {α β : Type}

/-- A program that has a result only if no call failed, and ends for the directory only with the
failure of a call. -/
def Heeds (p : Program α) : Prop :=
  ∀ events result, Trace p events result →
    (result.isOk = true → ∀ e ∈ events, ∀ failure, e.reply ≠ .error failure) ∧
    ∀ failure, result = .error (.directory failure) → ∃ e ∈ events, e.reply = .error failure

theorem Heeds.done (a : α) : (Program.done a).Heeds := by
  intro events result h
  obtain ⟨rfl, rfl⟩ := h.of_done
  exact ⟨fun _ e he => absurd he List.not_mem_nil, fun failure h => by cases h⟩

theorem Heeds.fail {problem : Problem} (h : ∀ failure, problem ≠ .directory failure) :
    (Program.fail problem : Program α).Heeds := by
  intro events result htrace
  obtain ⟨rfl, rfl⟩ := htrace.of_fail
  exact ⟨fun hok => (by cases hok), fun failure he => absurd (Except.error.inj he) (h failure)⟩

theorem Heeds.call (c : Call) : (call c).Heeds := by
  intro events result h
  cases h with
  | refused failure =>
    refine ⟨fun hok => (by cases hok), fun other he => ?_⟩
    cases he
    exact ⟨_, List.mem_singleton_self _, rfl⟩
  | answered rest =>
    obtain ⟨rfl, rfl⟩ := rest.of_done
    refine ⟨fun _ e he failure hreply => ?_, fun failure he => by cases he⟩
    rw [List.mem_singleton.mp he] at hreply
    cases hreply

theorem Heeds.bind {p : Program α} {f : α → Program β} (hp : p.Heeds) (hf : ∀ a, (f a).Heeds) :
    (p.bind f).Heeds := by
  intro events result h
  rcases h.of_bind with ⟨problem, hfail, rfl⟩ | ⟨a, before, rest, hdone, hrest, rfl⟩
  · refine ⟨fun hok => (by cases hok), fun failure he => ?_⟩
    exact (hp events _ hfail).2 failure (congrArg Except.error (Except.error.inj he))
  · -- the first part came to its end, so that a failed call is one of the second
    obtain ⟨hok, herror⟩ := hf a rest result hrest
    refine ⟨fun hresult e he => ?_, fun failure he => ?_⟩
    · rcases List.mem_append.mp he with he | he
      · exact (hp before _ hdone).1 rfl e he
      · exact hok hresult e he
    · obtain ⟨e, he, hreply⟩ := herror failure he
      exact ⟨e, List.mem_append_right _ he, hreply⟩

end Program

namespace RoleKey

/-- A failure that settling ends with is one of the replies. -/
theorem error_mem_of_settleAll {place : Place} {keys : List RoleKey}
    {replies : List (Except Failure (Option Role))} {failure : Failure}
    (h : settleAll place keys replies = .error (.directory failure)) :
    .error failure ∈ replies := by
  induction keys generalizing replies with
  | nil => cases h
  | cons key keys ih =>
    -- a known reference takes none of the replies
    by_cases hknown : ∃ role, key = known role
    · obtain ⟨role, rfl⟩ := hknown
      rw [settleAll] at h
      cases hrest : settleAll place keys replies with
      | ok roles =>
        rw [hrest] at h
        cases h
      | error problem =>
        rw [hrest] at h
        cases h
        exact ih hrest
    · rw [settleAll_cons _ fun role he => hknown ⟨role, he⟩] at h
      rcases replies with _ | ⟨reply, rest⟩
      · cases h
      rw [List.headD_cons, List.tail_cons] at h
      rcases reply with other | found
      · cases h
        exact List.mem_cons_self
      rcases found with _ | found
      · cases h
      cases hrest : settleAll place keys rest with
      | ok roles =>
        rw [hrest] at h
        cases h
      | error problem =>
        rw [hrest] at h
        cases h
        exact List.mem_cons_of_mem _ (ih hrest)

theorem heeds_findAll (realm group : String) (client : Option ClientTarget)
    (keys : List RoleKey) : (findAll realm group client keys).Heeds := by
  intro events result h
  obtain ⟨replies, hlen, rfl, rfl⟩ := course_of_trace h
  refine ⟨fun hok e he failure hreply => ?_, fun failure he => ?_⟩
  · -- a lookup that failed is no hit
    rw [isOk_settleAll hlen] at hok
    have hhit : e.hit = true := List.all_eq_true.mp hok e he
    obtain ⟨⟨q, reply⟩, -, rfl⟩ := List.mem_map.mp he
    obtain rfl : reply = .error failure := hreply
    cases hhit
  · exact (Directory.exists_failed_lookUpEvents_iff hlen).mpr (error_mem_of_settleAll he)

end RoleKey

namespace Request

theorem heeds_find (realm : String) (key : GroupKey) : (key.find realm).Heeds := by
  match key with
  | ⟨some id, name⟩ => exact .done _
  | ⟨none, none⟩ => exact .fail fun failure h => by cases h
  | ⟨none, some name⟩ =>
    refine (Heeds.call _).bind fun found => ?_
    cases found with
    | none => exact .fail fun failure h => by cases h
    | some group => exact .done _

theorem heeds_find? (realm : String) (client : Option ClientKey) :
    (ClientKey.find? realm client).Heeds := by
  match client with
  | none => exact .done _
  | some ⟨some id, clientId⟩ => exact .done _
  | some ⟨none, none⟩ => exact .fail fun failure h => by cases h
  | some ⟨none, some clientId⟩ =>
    refine Heeds.bind (Heeds.bind (Heeds.call _) fun found => ?_) fun _ => .done _
    cases found with
    | none => exact .fail fun failure h => by cases h
    | some id => exact .done _

/-- The program of a request goes on with answers only, and blames the directory only for what a
call failed with. -/
theorem heeds_fulfil (request : Request) : request.fulfil.Heeds := by
  rw [fulfil_eq]
  -- first the references are checked, then the target is found and surveyed, then changed
  refine Heeds.bind (Heeds.bind ?_ fun keys => ?_) fun found => ?_
  · unfold Program.check
    cases request.checkReferences with
    | error fault => exact .fail fun failure h => by cases h
    | ok keys => exact .done _
  · refine Heeds.bind (heeds_find _ _) fun group => ?_
    refine Heeds.bind (heeds_find? _ _) fun client => ?_
    cases keys with
    | none => exact .done _
    | some keys =>
      refine Heeds.bind (RoleKey.heeds_findAll _ _ _ _) fun desired => ?_
      refine Heeds.bind ?_ fun survey => .done _
      exact Heeds.bind (.call _) fun available => Heeds.bind (.call _) fun assigned => .done _
  · cases found with
    | none => exact .done _
    | some plan =>
      refine Heeds.bind ?_ fun effect => .done _
      -- nothing to change, a preview, or the change and a second look at what is assigned
      unfold Goal.apply
      split
      · exact .done _
      split
      · exact .done _
      · exact Heeds.bind (.call _) fun _ => Heeds.bind (.call _) fun endState => .done _

end Request

end GroupRoles
