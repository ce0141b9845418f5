import GroupRoles.Directory.Script
import GroupRoles.Proofs.Directory.Pool
import GroupRoles.Proofs.Fulfil.References
import Mathlib.Data.List.Forall2

/-!
# What references are resolved to

A reference stands for a role: a known one for itself, and one that is looked up for the role that
is found, with what the reference itself says (`RoleKey.StandsFor`). Where nothing is found, or the
lookup fails, the reference has its own problem (`RoleKey.FailsWith`).

References are resolved to the roles that they stand for, or else the first that stands for none
tells the problem (`RoleKey.Resolution`). All are looked up together, and neither the result nor
which lookups are made hangs on the order in which the lookups come to an end
(`findAll_resolves`).
-/

namespace GroupRoles

namespace RoleKey

variable {lookup : RoleQuery → Except Failure (Option Role)} {realm group : String}
  {client : Option ClientTarget}

/-! ## One reference -/

/-- The role that a reference stands for, given what is replied to lookups. -/
inductive StandsFor (lookup : RoleQuery → Except Failure (Option Role)) (group : String)
    (client : Option ClientTarget) : RoleKey → Role → Prop where
  | known (role : Role) : StandsFor lookup group client (known role) role
  | byName {name : String} {found : Role}
      (h : lookup (.named (client.map ClientTarget.id) name) = .ok (some found)) :
      StandsFor lookup group client (byName name) ⟨found.id, name⟩
  | byId {id : String} {found : Role}
      (h : lookup (.mapped group (client.map ClientTarget.id) id) = .ok (some found)) :
      StandsFor lookup group client (byId id) ⟨id, found.name⟩

/-- The place that a problem names for a scope: the realm, or a client of it, by its client id where
that is known and else by its internal id. -/
inductive Within (realm : String) : Option ClientTarget → Place → Prop where
  | realm : Within realm none (.realm realm)
  | client (id clientId : String) :
      Within realm (some ⟨id, some clientId⟩) (.client clientId realm)
  | internal (id : String) : Within realm (some ⟨id, none⟩) (.client id realm)

/-- The problem of a reference that stands for no role. -/
inductive FailsWith (lookup : RoleQuery → Except Failure (Option Role)) (realm group : String)
    (client : Option ClientTarget) : RoleKey → Problem → Prop where
  | missingName {name : String} {place : Place} (hplace : Within realm client place)
      (h : lookup (.named (client.map ClientTarget.id) name) = .ok none) :
      FailsWith lookup realm group client (byName name) (.notFound .role (.name name) place)
  | missingId {id : String} {place : Place} (hplace : Within realm client place)
      (h : lookup (.mapped group (client.map ClientTarget.id) id) = .ok none) :
      FailsWith lookup realm group client (byId id) (.notFound .role (.id id) place)
  | failedName {name : String} {failure : Failure}
      (h : lookup (.named (client.map ClientTarget.id) name) = .error failure) :
      FailsWith lookup realm group client (byName name) (.directory failure)
  | failedId {id : String} {failure : Failure}
      (h : lookup (.mapped group (client.map ClientTarget.id) id) = .error failure) :
      FailsWith lookup realm group client (byId id) (.directory failure)

/-- The lookups that references need, in order: one for each that is not known. -/
def queries (group : String) (client : Option ClientTarget) : List RoleKey → List RoleQuery
  | [] => []
  | known _ :: keys => queries group client keys
  | byName name :: keys =>
    .named (client.map ClientTarget.id) name :: queries group client keys
  | byId id :: keys =>
    .mapped group (client.map ClientTarget.id) id :: queries group client keys

theorem within_place (realm : String) (client : Option ClientTarget) :
    Within realm client (ClientTarget.place realm client) := by
  match client with
  | none => exact .realm
  | some ⟨id, some clientId⟩ => exact .client id clientId
  | some ⟨id, none⟩ => exact .internal id

theorem Within.eq_place {place : Place} (h : Within realm client place) :
    place = ClientTarget.place realm client := by
  cases h <;> rfl

/-- The lookups in order are those of the references one after another. -/
theorem queries_eq_filterMap (group : String) (client : Option ClientTarget)
    (keys : List RoleKey) :
    queries group client keys = keys.filterMap (query? group (ClientTarget.scope client)) := by
  induction keys with
  | nil => rfl
  | cons key keys ih =>
    cases key with
    | known role => exact ih
    | byName name | byId id => exact congrArg (_ :: ·) ih

/-- A reference fails when its lookup finds nothing or fails itself. -/
theorem failsWith_iff {key : RoleKey} {problem : Problem} :
    FailsWith lookup realm group client key problem ↔
      ∃ q, key.query? group (ClientTarget.scope client) = some q ∧
        (lookup q = .ok none ∧
            problem = .notFound .role key.handle (ClientTarget.place realm client) ∨
          ∃ failure, lookup q = .error failure ∧ problem = .directory failure) := by
  constructor
  · intro h
    cases h with
    | missingName hplace h | missingId hplace h =>
      exact ⟨_, rfl, .inl ⟨h, hplace.eq_place ▸ rfl⟩⟩
    | failedName h | failedId h => exact ⟨_, rfl, .inr ⟨_, h, rfl⟩⟩
  · rintro ⟨q, hq, ⟨h, rfl⟩ | ⟨failure, h, rfl⟩⟩
    · cases key <;> cases hq
      · exact .missingName (within_place realm client) h
      · exact .missingId (within_place realm client) h
    · cases key <;> cases hq
      · exact .failedName h
      · exact .failedId h

variable (lookup realm group client) in
/-- A reference stands for a role or has a problem. -/
theorem standsFor_or_failsWith (key : RoleKey) :
    (∃ role, StandsFor lookup group client key role) ∨
      ∃ problem, FailsWith lookup realm group client key problem := by
  have hreply : ∀ q, key.query? group (ClientTarget.scope client) = some q →
      (∀ found, lookup q = .ok (some found) → ∃ role, StandsFor lookup group client key role) →
      (∃ role, StandsFor lookup group client key role) ∨
        ∃ problem, FailsWith lookup realm group client key problem := by
    intro q hq hfound
    cases hlookup : lookup q with
    | error failure =>
      exact .inr ⟨_, failsWith_iff.mpr ⟨q, hq, .inr ⟨failure, hlookup, rfl⟩⟩⟩
    | ok found =>
      cases found with
      | none => exact .inr ⟨_, failsWith_iff.mpr ⟨q, hq, .inl ⟨hlookup, rfl⟩⟩⟩
      | some found => exact .inl (hfound found hlookup)
  cases key with
  | known role => exact .inl ⟨role, .known role⟩
  | byName name => exact hreply _ rfl fun found h => ⟨_, .byName h⟩
  | byId id => exact hreply _ rfl fun found h => ⟨_, .byId h⟩

/-- A reference stands for a role exactly if its lookup, where it needs one, finds something. -/
theorem exists_standsFor_iff {key : RoleKey} :
    (∃ role, StandsFor lookup group client key role) ↔
      ∀ q ∈ key.query? group (ClientTarget.scope client), ∃ found, lookup q = .ok (some found) := by
  constructor
  · rintro ⟨role, hrole⟩ q hq
    cases hrole with
    | known role => cases hq
    | byName h | byId h =>
      cases hq
      exact ⟨_, h⟩
  · intro h
    cases key with
    | known role => exact ⟨role, .known role⟩
    | byName name =>
      obtain ⟨found, hfound⟩ := h _ rfl
      exact ⟨_, .byName hfound⟩
    | byId id =>
      obtain ⟨found, hfound⟩ := h _ rfl
      exact ⟨_, .byId hfound⟩

theorem exists_forall₂_standsFor_iff {keys : List RoleKey} :
    (∃ roles, List.Forall₂ (StandsFor lookup group client) keys roles) ↔
      ∀ q ∈ queries group client keys, ∃ found, lookup q = .ok (some found) := by
  induction keys with
  | nil => exact ⟨fun _ q hq => absurd hq List.not_mem_nil, fun _ => ⟨[], .nil⟩⟩
  | cons key keys ih =>
    have hqueries : queries group client (key :: keys) =
        (key.query? group (ClientTarget.scope client)).toList ++ queries group client keys := by
      cases key <;> rfl
    have hkey : (∀ q ∈ (key.query? group (ClientTarget.scope client)).toList,
        ∃ found, lookup q = .ok (some found)) ↔ ∃ role, StandsFor lookup group client key role := by
      rw [exists_standsFor_iff]
      exact forall_congr' fun q => imp_congr_left Option.mem_toList
    rw [hqueries, List.forall_mem_append, hkey, ← ih]
    constructor
    · rintro ⟨_, hroles⟩
      obtain ⟨role, roles, hrole, hrest, -⟩ := List.forall₂_cons_left_iff.mp hroles
      exact ⟨⟨role, hrole⟩, roles, hrest⟩
    · rintro ⟨⟨role, hrole⟩, roles, hroles⟩
      exact ⟨role :: roles, .cons hrole hroles⟩

/-! ## All references -/

/-- What becomes of references: the roles that they stand for, or the problem of the first that
stands for none. -/
structure Resolution (lookup : RoleQuery → Except Failure (Option Role)) (realm group : String)
    (client : Option ClientTarget) (keys : List RoleKey) (result : Except Problem (List Role)) :
    Prop where
  ok_iff_found : (∃ roles, result = .ok roles) ↔
    ∀ q ∈ queries group client keys, ∃ found, lookup q = .ok (some found)
  eq_ok_iff : ∀ roles, result = .ok roles ↔
    List.Forall₂ (StandsFor lookup group client) keys roles
  eq_error_iff : ∀ problem, result = .error problem ↔
    ∃ before key after, keys = before ++ key :: after ∧
      (∀ other ∈ before, ∃ role, StandsFor lookup group client other role) ∧
      FailsWith lookup realm group client key problem

/-- What references are settled to by the replies to their lookups. -/
def settled (lookup : RoleQuery → Except Failure (Option Role)) (realm group : String)
    (client : Option ClientTarget) (keys : List RoleKey) : Except Problem (List Role) :=
  settleAll (ClientTarget.place realm client) keys ((queries group client keys).map lookup)

theorem settled_cons_of_known (role : Role) (keys : List RoleKey) :
    settled lookup realm group client (known role :: keys) =
      (settled lookup realm group client keys).map (role :: ·) := by
  change (do let roles ← settled lookup realm group client keys; pure (role :: roles)) = _
  cases settled lookup realm group client keys <;> rfl

/-- A reference that is looked up is settled by the reply to its own lookup. -/
theorem settled_cons_of_query {key : RoleKey} {q : RoleQuery} (keys : List RoleKey)
    (hq : key.query? group (ClientTarget.scope client) = some q) :
    settled lookup realm group client (key :: keys) =
      (do let role ← settle (ClientTarget.place realm client) key (lookup q)
          let roles ← settled lookup realm group client keys
          pure (role :: roles)) := by
  have hqueries : queries group client (key :: keys) = q :: queries group client keys := by
    rw [queries_eq_filterMap, queries_eq_filterMap]
    exact List.filterMap_cons_some hq
  rw [settled, hqueries, List.map_cons, settleAll_cons _ (ne_known hq)]
  rfl

theorem settled_cons_of_standsFor {key : RoleKey} {role : Role} (keys : List RoleKey)
    (h : StandsFor lookup group client key role) :
    settled lookup realm group client (key :: keys) =
      (settled lookup realm group client keys).map (role :: ·) := by
  cases h with
  | known role => exact settled_cons_of_known role keys
  | byName h | byId h =>
    rw [settled_cons_of_query keys rfl, ClientTarget.scope, h]
    cases settled lookup realm group client keys <;> rfl

theorem settled_cons_of_failsWith {key : RoleKey} {problem : Problem} (keys : List RoleKey)
    (h : FailsWith lookup realm group client key problem) :
    settled lookup realm group client (key :: keys) = .error problem := by
  obtain ⟨q, hq, ⟨hreply, rfl⟩ | ⟨failure, hreply, rfl⟩⟩ := failsWith_iff.mp h
  · rw [settled_cons_of_query keys hq, hreply]
    rfl
  · rw [settled_cons_of_query keys hq, hreply]
    rfl

theorem settled_of_forall₂ {keys : List RoleKey} {roles : List Role}
    (h : List.Forall₂ (StandsFor lookup group client) keys roles) :
    settled lookup realm group client keys = .ok roles := by
  induction h with
  | nil => rfl
  | cons hkey _ ih =>
    rw [settled_cons_of_standsFor _ hkey, ih]
    rfl

theorem settled_of_first {before after : List RoleKey} {key : RoleKey} {problem : Problem}
    (hbefore : ∀ other ∈ before,
      ∃ role, StandsFor lookup group client other role)
    (hkey : FailsWith lookup realm group client key problem) :
    settled lookup realm group client (before ++ key :: after) = .error problem := by
  induction before with
  | nil => exact settled_cons_of_failsWith after hkey
  | cons other before ih =>
    obtain ⟨⟨role, hrole⟩, hrest⟩ := List.forall_mem_cons.mp hbefore
    rw [List.cons_append, settled_cons_of_standsFor _ hrole, ih hrest]
    rfl

variable (lookup realm group client) in
/-- Either all references stand for roles, or there is a first that has a problem. -/
theorem forall₂_or_first (keys : List RoleKey) :
    (∃ roles, List.Forall₂ (StandsFor lookup group client) keys roles) ∨
      ∃ before key after problem, keys = before ++ key :: after ∧
        (∀ other ∈ before, ∃ role, StandsFor lookup group client other role) ∧
        FailsWith lookup realm group client key problem := by
  induction keys with
  | nil => exact .inl ⟨[], .nil⟩
  | cons key keys ih =>
    rcases standsFor_or_failsWith lookup realm group client key with ⟨role, hrole⟩ | ⟨problem, hproblem⟩
    · rcases ih with ⟨roles, hroles⟩ | ⟨before, first, after, problem, rfl, hbefore, hfirst⟩
      · exact .inl ⟨role :: roles, .cons hrole hroles⟩
      · exact .inr ⟨key :: before, first, after, problem, rfl,
          List.forall_mem_cons.mpr ⟨⟨role, hrole⟩, hbefore⟩, hfirst⟩
    · exact .inr ⟨[], key, keys, problem, rfl, fun other hother => absurd hother List.not_mem_nil,
        hproblem⟩

/-- References are settled to the roles that they stand for, or to the problem of the first that
stands for none. -/
theorem resolution_settled (keys : List RoleKey) :
    Resolution lookup realm group client keys (settled lookup realm group client keys) := by
  have hcases := forall₂_or_first lookup realm group client keys
  have hok : ∀ roles, settled lookup realm group client keys = .ok roles ↔
      List.Forall₂ (StandsFor lookup group client) keys roles := by
    intro roles
    refine ⟨fun hsettled => ?_, settled_of_forall₂⟩
    rcases hcases with ⟨roles', hroles⟩ | ⟨before, key, after, problem, rfl, hbefore, hkey⟩
    · rw [settled_of_forall₂ hroles, Except.ok.injEq] at hsettled
      exact hsettled ▸ hroles
    · rw [settled_of_first hbefore hkey] at hsettled
      cases hsettled
  refine ⟨?_, hok, fun problem => ⟨fun hsettled => ?_, ?_⟩⟩
  · rw [exists_congr hok]
    exact exists_forall₂_standsFor_iff
  · rcases hcases with ⟨roles, hroles⟩ | ⟨before, key, after, problem', rfl, hbefore, hkey⟩
    · rw [settled_of_forall₂ hroles] at hsettled
      cases hsettled
    · rw [settled_of_first hbefore hkey, Except.error.injEq] at hsettled
      exact ⟨before, key, after, rfl, hbefore, hsettled ▸ hkey⟩
  · rintro ⟨before, key, after, rfl, hbefore, hkey⟩
    exact settled_of_first hbefore hkey

/-! ## All lookups together -/

theorem findAll_eq (realm group : String) (client : Option ClientTarget) (keys : List RoleKey) :
    findAll realm group client keys =
      .gather realm (queries group client keys) fun replies =>
        .ended (settleAll (ClientTarget.place realm client) keys replies) := by
  rw [findAll, queries_eq_filterMap]
  congr 1
  funext replies
  cases settleAll (ClientTarget.place realm client) keys replies <;> rfl

variable {ι σ : Type} [DecidableEq ι]

/-- References are resolved with one lookup for each that is not known, to the roles that they stand
for or to the problem of the first that stands for none; the order in which the lookups come to an
end does not matter. -/
theorem findAll_resolves {d : Directory σ} {pool : Pool ι σ (List Role)} {i : ι}
    {keys : List RoleKey} (hprogram : pool.program i = findAll realm group client keys)
    (hsteady : d.Steady realm pool.state) :
    ∃ result, Resolution (d.reply realm pool.state) realm group client keys result ∧
      ∀ order, LookupOrder (queries group client keys).length order →
        (pool.run d (Pool.together i order)).program i = .ended result ∧
        ∃ made : List Event,
          (pool.run d (Pool.together i order)).log = pool.log ++ made.map (i, ·) ∧
          (made.map Event.call).Perm ((queries group client keys).map (.role realm)) := by
  rw [findAll_eq] at hprogram
  refine ⟨settled (d.reply realm pool.state) realm group client keys, resolution_settled keys,
    fun order horder => ?_⟩
  obtain ⟨made, hmade, hlog, hended⟩ := Pool.exists_run_together horder hprogram hsteady
  exact ⟨hended, made, hlog, hmade⟩

/-- A role of a client that is not mapped is reported, within the client as it is called, and not
the failed lookup behind it, whichever of the two comes to an end first. -/
theorem findAll_resolves_missing :
    let script : Script :=
      { named := { client := [.error { cause := .other "down" }] }
        mapped := { client := [.ok none] } }
    let portal : ClientTarget := ⟨"c1", some "portal"⟩
    let pool : Pool Unit Script (List Role) :=
      { program := fun _ => findAll "master" "g1" (some portal)
          [known ⟨"r1", "reader"⟩, byId "r2", byName "writer"]
        state := script }
    ∀ order ∈ [[0, 0], [1, 0]],
      (pool.run Script.directory (Pool.together () order)).program () =
          .fail (.notFound .role (.id "r2") (.client "portal" "master")) ∧
        ∃ made : List Event, (pool.run Script.directory (Pool.together () order)).log =
            pool.log ++ made.map ((), ·) ∧
          (made.map Event.call).Perm
            [.role "master" (.mapped "g1" (some "c1") "r2"),
              .role "master" (.named (some "c1") "writer")] := by
  intro script portal pool order horder
  have hsame : ∀ queries, (Script.directory.lookUp "master" queries script).2 = script := by
    intro queries
    induction queries with
    | nil => rfl
    | cons q queries ih =>
      have hq : (Script.directory.answer (.role "master" q) script).2 = script := by
        match q with
        | .named none _ | .named (some _) _ | .mapped _ none _ | .mapped _ (some _) _ => rfl
      change (Script.directory.lookUp "master" queries
        (Script.directory.answer (.role "master" q) script).2).2 = script
      rw [hq, ih]
  have hsteady : Script.directory.Steady "master" pool.state := by
    intro queries
    change Script.directory.reply "master" (Script.directory.lookUp "master" queries script).2 = _
    rw [hsame]
  have hprogram : pool.program () = findAll "master" "g1" (some portal)
      [known ⟨"r1", "reader"⟩, byId "r2", byName "writer"] := rfl
  obtain ⟨result, hresolution, hruns⟩ := findAll_resolves hprogram hsteady
  have hresult : result = .error (.notFound .role (.id "r2") (.client "portal" "master")) := by
    refine (hresolution.eq_error_iff _).mpr
      ⟨[known ⟨"r1", "reader"⟩], byId "r2", [byName "writer"], rfl, ?_,
        .missingId (.client "c1" "portal") rfl⟩
    exact List.forall_mem_singleton.mpr ⟨_, .known _⟩
  have hlookups : LookupOrder 2 order := by
    simp only [List.mem_cons, List.not_mem_nil, or_false] at horder
    rcases horder with rfl | rfl
    · exact .cons (by decide) (.cons (by decide) .nil)
    · exact .cons (by decide) (.cons (by decide) .nil)
  rw [hresult] at hruns
  exact hruns order hlookups

end RoleKey

end GroupRoles
