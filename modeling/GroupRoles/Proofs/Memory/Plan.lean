import GroupRoles.Proofs.Fulfil.Plan
import GroupRoles.Proofs.Fulfil.References
import GroupRoles.Proofs.Memory.Reach
import GroupRoles.Proofs.Memory.Value

/-!
# What a request means in a realm

`Realm.group?`, `Realm.scope?` and `Realm.resolve?` say which group, scope and role a reference
stands for in a realm, without any call; `Realm.plan?` puts them together. `value_prepare` says
that reading a store finds exactly this.
-/

namespace GroupRoles.Memory

open Program

namespace Realm

variable {realm other : Realm} {group : String} {scope : Scope} {key : RoleKey} {role : Role}

/-- The group that a reference stands for. -/
def group? (realm : Realm) : GroupKey → Option GroupTarget
  | ⟨some id, name⟩ => some ⟨id, name⟩
  | ⟨none, some name⟩ =>
    (realm.groups.find? (·.name = name)).map fun group => ⟨group.id, some group.name⟩
  | ⟨none, none⟩ => none

/-- The client that a reference stands for, if one is given. -/
def client? (realm : Realm) : Option ClientKey → Option (Option ClientTarget)
  | none => some none
  | some ⟨some id, clientId⟩ => some (some ⟨id, clientId⟩)
  | some ⟨none, some clientId⟩ =>
    (realm.clients.find? (·.clientId = clientId)).map fun client => some ⟨client.id, some clientId⟩
  | some ⟨none, none⟩ => none

/-- The scope of a request. -/
def scope? (realm : Realm) (request : Request) : Option Scope :=
  (realm.client? request.client).map ClientTarget.scope

/-- The role that a reference stands for. -/
def resolve? (realm : Realm) (group : String) (scope : Scope) : RoleKey → Option Role
  | .known role => some role
  | .byName name => realm.role? (.named scope name)
  | .byId id => realm.role? (.mapped group scope id)

/-- The survey of a group. -/
def survey (realm : Realm) (group : String) (scope : Scope) : Survey :=
  ⟨realm.available group scope, realm.effective group scope⟩

/-- What a request means: its group, scope and desired roles, and the survey of the group. -/
def plan? (realm : Realm) (request : Request) : Option Plan := do
  let group ← realm.group? request.group
  let scope ← realm.scope? request
  let desired ← request.references.mapM (realm.resolve? group.id scope)
  pure ⟨group, scope, request.references, desired, realm.survey group.id scope⟩

/-- The references of a request that give both an id and a name are roles of its scope. -/
def Lists (realm : Realm) (request : Request) : Prop :=
  ∀ scope ∈ realm.scope? request, ∀ role, .known role ∈ request.references →
    role ∈ realm.roles scope

/-- Names tell the roles in the scope of a request apart. -/
def NamesApart (realm : Realm) (request : Request) : Prop :=
  ∀ scope ∈ realm.scope? request, ((realm.roles scope).map Role.name).Nodup

/-! ## Roles of the catalog -/

theorem role?_named {name : String} (h : realm.role? (.named scope name) = some role) :
    role ∈ realm.roles scope ∧ role.name = name := by
  obtain ⟨entry, hfind, rfl⟩ := Option.map_eq_some_iff.mp h
  have htest := List.find?_some hfind
  exact ⟨List.mem_map_of_mem (List.mem_of_find?_eq_some hfind), of_decide_eq_true htest⟩

theorem role?_mapped {id : String} (h : realm.role? (.mapped group scope id) = some role) :
    role ∈ realm.roles scope ∧ role.id = id := by
  obtain ⟨entry, hfind, rfl⟩ := Option.map_eq_some_iff.mp h
  have htest := List.find?_some hfind
  rw [Bool.and_eq_true] at htest
  exact ⟨List.mem_map_of_mem (List.mem_of_find?_eq_some hfind), of_decide_eq_true htest.1⟩

/-- A reference stands for a role of the catalog, unless it gives id and name itself. -/
theorem resolve?_mem_roles (hknown : ∀ known, key = .known known → known ∈ realm.roles scope)
    (h : realm.resolve? group scope key = some role) : role ∈ realm.roles scope := by
  cases key with
  | known known => exact Option.some.inj h ▸ hknown known rfl
  | byName name => exact (role?_named h).1
  | byId id => exact (role?_mapped h).1

/-- An id stands for a role only while it is mapped, and then for the first of the catalog. -/
theorem role?_mapped_eq {id : String} :
    realm.role? (.mapped group scope id) =
      if id ∈ realm.direct group scope then
        ((realm.catalog scope).find? (·.role.id = id)).map CatalogEntry.role
      else none := by
  have htest : (fun entry : CatalogEntry => decide (entry.role.id = id) &&
      (realm.direct group scope).contains id) =
      fun entry => decide (entry.role.id = id) && decide (id ∈ realm.direct group scope) := by
    funext entry
    rw [List.contains_eq_mem]
  rw [role?, htest]
  split
  · next hmapped => simp only [hmapped, decide_true, Bool.and_true]
  · next hmapped => simp [hmapped]

/-- The role that a reference stands for is a matter of the catalog and, for an id, of its being
mapped. -/
theorem resolve?_congr (hcatalog : other.catalog scope = realm.catalog scope)
    (hkey : ∀ id, key = .byId id →
      (id ∈ other.direct group scope ↔ id ∈ realm.direct group scope)) :
    other.resolve? group scope key = realm.resolve? group scope key := by
  cases key with
  | known known => rfl
  | byName name => simp only [resolve?, role?, hcatalog]
  | byId id => simp only [resolve?, role?_mapped_eq, hcatalog, hkey id rfl]

/-! ## Plans -/

theorem plan?_eq_some {request : Request} {plan : Plan} :
    realm.plan? request = some plan ↔
      realm.group? request.group = some plan.group ∧ realm.scope? request = some plan.scope ∧
        plan.keys = request.references ∧
        request.references.mapM (realm.resolve? plan.group.id plan.scope) = some plan.desired ∧
        plan.survey = realm.survey plan.group.id plan.scope := by
  obtain ⟨group, scope, keys, desired, survey⟩ := plan
  unfold plan?
  constructor
  · intro h
    obtain ⟨target, hgroup, h⟩ := Option.bind_eq_some_iff.mp h
    obtain ⟨found, hscope, h⟩ := Option.bind_eq_some_iff.mp h
    obtain ⟨roles, hroles, h⟩ := Option.bind_eq_some_iff.mp h
    cases h
    exact ⟨hgroup, hscope, rfl, hroles, rfl⟩
  · rintro ⟨hgroup, hscope, hkeys, hroles, hsurvey⟩
    simp only at hkeys hsurvey
    subst hkeys hsurvey
    exact Option.bind_eq_some_iff.mpr ⟨_, hgroup, Option.bind_eq_some_iff.mpr ⟨_, hscope,
      Option.bind_eq_some_iff.mpr ⟨_, hroles, rfl⟩⟩⟩

/-- A request that names no roles desires none. -/
theorem desired_eq_nil {request : Request} {plan : Plan} (hplan : realm.plan? request = some plan)
    (hroles : request.roles = none) : plan.desired = [] := by
  obtain ⟨-, -, -, hdesired, -⟩ := plan?_eq_some.mp hplan
  rw [Request.references, hroles] at hdesired
  exact (Option.some.inj hdesired).symm

/-- What comes out of a `mapM` that succeeds is what the function gives, one by one. -/
theorem map_eq_of_mapM {keys : List RoleKey} {roles : List Role} {f : RoleKey → Option Role}
    (h : keys.mapM f = some roles) : keys.map f = roles.map some := by
  induction keys generalizing roles with
  | nil =>
    cases h
    rfl
  | cons key rest ih =>
    rw [List.mapM_cons] at h
    obtain ⟨first, hfirst, h⟩ := Option.bind_eq_some_iff.mp h
    obtain ⟨others, hothers, h⟩ := Option.bind_eq_some_iff.mp h
    cases h
    rw [List.map_cons, List.map_cons, hfirst, ih hothers]

theorem exists_of_mem_mapM {keys : List RoleKey} {roles : List Role} {f : RoleKey → Option Role}
    (h : keys.mapM f = some roles) (hrole : role ∈ roles) : ∃ key ∈ keys, f key = some role := by
  have hmem : some role ∈ keys.map f := map_eq_of_mapM h ▸ List.mem_map_of_mem hrole
  exact List.mem_map.mp hmem

theorem exists_of_mapM_of_mem {keys : List RoleKey} {roles : List Role} {f : RoleKey → Option Role}
    {key : RoleKey} (h : keys.mapM f = some roles) (hkey : key ∈ keys) :
    ∃ role ∈ roles, f key = some role := by
  have hmem : f key ∈ roles.map some := map_eq_of_mapM h ▸ List.mem_map_of_mem hkey
  obtain ⟨role, hrole, he⟩ := List.mem_map.mp hmem
  exact ⟨role, hrole, he.symm⟩

/-- What comes out of a `mapM` comes out of one over more references too. -/
theorem mem_of_mapM_of_subset {keys keys' : List RoleKey} {roles roles' : List Role}
    {f : RoleKey → Option Role} (hkeys : ∀ key ∈ keys, key ∈ keys') (h : keys.mapM f = some roles)
    (h' : keys'.mapM f = some roles') (hrole : role ∈ roles) : role ∈ roles' := by
  obtain ⟨key, hkey, he⟩ := exists_of_mem_mapM h hrole
  obtain ⟨other, hother, he'⟩ := exists_of_mapM_of_mem h' (hkeys key hkey)
  have hsame : other = role := Option.some.inj (he'.symm.trans he)
  exact hsame ▸ hother

/-- A `mapM` succeeds when the function gives something for each. -/
theorem exists_mapM {keys : List RoleKey} {f : RoleKey → Option Role}
    (h : ∀ key ∈ keys, ∃ role, f key = some role) : ∃ roles, keys.mapM f = some roles := by
  induction keys with
  | nil => exact ⟨[], rfl⟩
  | cons key rest ih =>
    obtain ⟨first, hfirst⟩ := h key List.mem_cons_self
    obtain ⟨others, hothers⟩ := ih fun other hother => h other (List.mem_cons_of_mem key hother)
    refine ⟨first :: others, ?_⟩
    rw [List.mapM_cons, hfirst, hothers]
    rfl

theorem mapM_congr_of_mem {keys : List RoleKey} {f g : RoleKey → Option Role}
    (h : ∀ key ∈ keys, f key = g key) : keys.mapM f = keys.mapM g := by
  induction keys with
  | nil => rfl
  | cons key rest ih =>
    rw [List.mapM_cons, List.mapM_cons, h key List.mem_cons_self,
      ih fun other hother => h other (List.mem_cons_of_mem key hother)]

/-- Every reference of a request with a plan stands for a desired role. -/
theorem exists_resolve? {request : Request} {plan : Plan} (hplan : realm.plan? request = some plan)
    (hkey : key ∈ request.references) :
    ∃ role ∈ plan.desired, realm.resolve? plan.group.id plan.scope key = some role := by
  obtain ⟨-, -, -, hdesired, -⟩ := plan?_eq_some.mp hplan
  exact exists_of_mapM_of_mem hdesired hkey

/-- An id that a request with a plan refers by alone is mapped. -/
theorem mem_direct_of_byId {request : Request} {plan : Plan} {id : String}
    (hplan : realm.plan? request = some plan) (hid : .byId id ∈ request.references) :
    id ∈ realm.direct plan.group.id plan.scope := by
  obtain ⟨role, -, hresolve⟩ := exists_resolve? hplan hid
  rw [resolve?, role?_mapped_eq] at hresolve
  refine Decidable.byContradiction fun hdirect => ?_
  rw [if_neg hdirect] at hresolve
  cases hresolve

/-- The desired roles are roles of the scope. -/
theorem desired_mem_roles {request : Request} {plan : Plan} (hlists : realm.Lists request)
    (hplan : realm.plan? request = some plan) :
    ∀ role ∈ plan.desired, role ∈ realm.roles plan.scope := by
  obtain ⟨-, hscope, -, hdesired, -⟩ := plan?_eq_some.mp hplan
  intro role hrole
  obtain ⟨key, hkey, hresolve⟩ := exists_of_mem_mapM hdesired hrole
  refine resolve?_mem_roles (fun known he => ?_) hresolve
  exact hlists plan.scope hscope known (he ▸ hkey)

theorem group?_congr (h : other.groups = realm.groups) (key : GroupKey) :
    other.group? key = realm.group? key := by
  match key with
  | ⟨some id, name⟩ => rfl
  | ⟨none, none⟩ => rfl
  | ⟨none, some name⟩ => rw [group?, group?, h]

theorem client?_congr (h : other.clients = realm.clients) (client : Option ClientKey) :
    other.client? client = realm.client? client := by
  match client with
  | none => rfl
  | some ⟨some id, clientId⟩ => rfl
  | some ⟨none, none⟩ => rfl
  | some ⟨none, some clientId⟩ => rw [client?, client?, h]

/-- A request means the same wherever groups, clients and catalogs are the same and the ids that
it refers by alone are mapped as before; only the survey is of the realm itself. -/
theorem plan?_congr_of_mapped {request : Request} {plan : Plan}
    (hgroups : other.groups = realm.groups) (hclients : other.clients = realm.clients)
    (hcatalogs : other.catalogs = realm.catalogs)
    (hkeys : ∀ id, .byId id ∈ request.references →
      (id ∈ other.direct plan.group.id plan.scope ↔ id ∈ realm.direct plan.group.id plan.scope))
    (hplan : realm.plan? request = some plan) :
    other.plan? request =
      some { plan with survey := other.survey plan.group.id plan.scope } := by
  obtain ⟨hgroup, hscope, hreferences, hdesired, -⟩ := plan?_eq_some.mp hplan
  refine plan?_eq_some.mpr ⟨?_, ?_, hreferences, ?_, rfl⟩
  · rw [group?_congr hgroups, hgroup]
  · rw [scope?, client?_congr hclients]
    exact hscope
  · have hcatalog : other.catalog plan.scope = realm.catalog plan.scope := by
      rw [catalog, hcatalogs]
      rfl
    rw [← hdesired]
    refine mapM_congr_of_mem fun key hkey => resolve?_congr hcatalog fun id he => ?_
    exact hkeys id (he ▸ hkey)

/-- A request without references by id alone means the same wherever groups, clients and catalogs
are the same. -/
theorem plan?_congr {request : Request} {plan : Plan} (hgroups : other.groups = realm.groups)
    (hclients : other.clients = realm.clients) (hcatalogs : other.catalogs = realm.catalogs)
    (hkeys : ∀ id, .byId id ∉ request.references) (hplan : realm.plan? request = some plan) :
    other.plan? request =
      some { plan with survey := other.survey plan.group.id plan.scope } :=
  plan?_congr_of_mapped hgroups hclients hcatalogs (fun id hid => absurd hid (hkeys id)) hplan

end Realm

/-! ## What reading a store finds -/

namespace Store

variable {α β : Type} {store : Store} {request : Request}

theorem toOption_value_bind (store : Store) (p : Program α) (f : α → Program β) :
    (store.value (p.bind f)).toOption =
      (store.value p).toOption.bind fun a => (store.value (f a)).toOption := by
  rw [value_bind]
  cases store.value p <;> rfl

/-- A program that gives a value goes on from it. -/
theorem value_bind_of_toOption {p : Program α} {f : α → Program β} {a : α}
    (h : (store.value p).toOption = some a) : store.value (p.bind f) = store.value (f a) := by
  rw [value_bind]
  cases hp : store.value p with
  | error problem =>
    rw [hp] at h
    cases h
  | ok b =>
    rw [hp] at h
    cases h
    rfl

theorem value_call_bind {c : Call} {a : c.Answer} {f : c.Answer → Program β}
    (h : (answer c store).1 = .ok a) : store.value ((call c).bind f) = store.value (f a) := by
  show store.value (.ask c f) = _
  rw [value, h]

theorem value_find (realm : String) (key : GroupKey) :
    (store.value (key.find realm)).toOption = (store.realms.get realm).group? key := by
  match key with
  | ⟨some id, name⟩ => rfl
  | ⟨none, none⟩ => rfl
  | ⟨none, some name⟩ =>
    have hanswer : (answer (.group realm name) store).1 =
        .ok ((store.realms.get realm).groups.find? (·.name = name)) := rfl
    rw [GroupKey.find, bind_eq, value_call_bind hanswer, Realm.group?]
    cases (store.realms.get realm).groups.find? (·.name = name) <;> rfl

theorem value_find? (realm : String) (client : Option ClientKey) :
    (store.value (ClientKey.find? realm client)).toOption =
      (store.realms.get realm).client? client := by
  match client with
  | none => rfl
  | some ⟨some id, clientId⟩ => rfl
  | some ⟨none, none⟩ => rfl
  | some ⟨none, some clientId⟩ =>
    have hanswer : (answer (.client realm clientId) store).1 =
        .ok (((store.realms.get realm).clients.find? (·.clientId = clientId)).map Client.id) := rfl
    rw [ClientKey.find?, map_eq, ClientKey.find, bind_eq, bind_assoc, value_call_bind hanswer,
      Realm.client?]
    cases (store.realms.get realm).clients.find? (·.clientId = clientId) <;> rfl

/-- Settled by what the realm answers, a reference stands for what it means in the realm. -/
theorem settle_eq (realm : Realm) {group : String} {scope : Scope} {key : RoleKey}
    {query : RoleQuery} (place : Place) (h : key.query? group scope = some query) :
    key.settle place (.ok (realm.role? query)) =
      match realm.resolve? group scope key with
      | some role => .ok role
      | none => .error (.notFound .role key.handle place) := by
  cases key with
  | known role => cases h
  | byName name =>
    cases h
    rw [Realm.resolve?]
    cases hfound : realm.role? (.named scope name) with
    | none => rfl
    | some found =>
      -- the name that the reference keeps is the one that was found by it
      obtain ⟨-, rfl⟩ := Realm.role?_named hfound
      rfl
  | byId id =>
    cases h
    rw [Realm.resolve?]
    cases hfound : realm.role? (.mapped group scope id) with
    | none => rfl
    | some found =>
      obtain ⟨-, rfl⟩ := Realm.role?_mapped hfound
      rfl

/-- References settled by what the realm answers to their lookups. -/
def settled (realm : Realm) (group : String) (scope : Scope) (place : Place)
    (keys : List RoleKey) : Except Problem (List Role) :=
  RoleKey.settleAll place keys
    ((keys.filterMap (RoleKey.query? group scope)).map fun q => .ok (realm.role? q))

/-- The first reference is settled by what it means in the realm, the others without its reply. -/
theorem settled_cons (realm : Realm) (group : String) (scope : Scope) (place : Place)
    (key : RoleKey) (rest : List RoleKey) :
    settled realm group scope place (key :: rest) =
      match realm.resolve? group scope key with
      | some role => (settled realm group scope place rest).map (role :: ·)
      | none => .error (.notFound .role key.handle place) := by
  unfold settled
  cases hquery : key.query? group scope with
  | none =>
    -- no lookup, and so no reply is used up
    obtain ⟨role, rfl⟩ := RoleKey.exists_eq_known hquery
    rw [List.filterMap_cons_none hquery, RoleKey.settleAll]
    cases RoleKey.settleAll place rest _ <;> rfl
  | some query =>
    rw [List.filterMap_cons_some hquery, List.map_cons,
      RoleKey.settleAll_cons _ (RoleKey.ne_known hquery), List.headD_cons, List.tail_cons,
      settle_eq realm place hquery]
    cases realm.resolve? group scope key with
    | none => rfl
    | some role => cases RoleKey.settleAll place rest _ <;> rfl

theorem toOption_settled (realm : Realm) (group : String) (scope : Scope) (place : Place)
    (keys : List RoleKey) :
    (settled realm group scope place keys).toOption = keys.mapM (realm.resolve? group scope) := by
  induction keys with
  | nil => rfl
  | cons key rest ih =>
    rw [List.mapM_cons, ← ih, settled_cons]
    cases realm.resolve? group scope key with
    | none => rfl
    | some role => cases settled realm group scope place rest <;> rfl

/-- What cannot be settled is a reference that stands for nothing in the realm. -/
theorem settled_eq_error {realm : Realm} {group : String} {scope : Scope} {place : Place}
    {keys : List RoleKey} {problem : Problem}
    (h : settled realm group scope place keys = .error problem) :
    ∃ key ∈ keys, realm.resolve? group scope key = none ∧
      problem = .notFound .role key.handle place := by
  induction keys with
  | nil => cases h
  | cons key rest ih =>
    rw [settled_cons] at h
    cases hresolve : realm.resolve? group scope key with
    | none =>
      rw [hresolve] at h
      cases h
      exact ⟨key, List.mem_cons_self, hresolve, rfl⟩
    | some role =>
      rw [hresolve] at h
      cases hrest : settled realm group scope place rest with
      | ok roles =>
        rw [hrest] at h
        cases h
      | error other =>
        rw [hrest] at h
        cases h
        obtain ⟨found, hmem, hnone, he⟩ := ih hrest
        exact ⟨found, List.mem_cons_of_mem key hmem, hnone, he⟩

/-- Finding roles settles their references by what the realm answers. -/
theorem value_findAll_eq (realm group : String) (client : Option ClientTarget)
    (keys : List RoleKey) :
    store.value (RoleKey.findAll realm group client keys) =
      settled (store.realms.get realm) group (ClientTarget.scope client)
        (ClientTarget.place realm client) keys := by
  rw [RoleKey.findAll, value, settled]
  cases RoleKey.settleAll (ClientTarget.place realm client) keys _ <;> rfl

theorem value_findAll (realm group : String) (client : Option ClientTarget)
    (keys : List RoleKey) :
    (store.value (RoleKey.findAll realm group client keys)).toOption =
      keys.mapM ((store.realms.get realm).resolve? group (ClientTarget.scope client)) := by
  rw [value_findAll_eq, toOption_settled]

theorem value_read (realm group : String) (scope : Scope) :
    store.value (Survey.read realm group scope) =
      .ok ((store.realms.get realm).survey group scope) := rfl

/-- Reading a store finds the plan of a request, if it names roles. -/
theorem value_prepareKeys (store : Store) (request : Request) :
    (store.value (request.prepareKeys (request.roles.map fun _ => request.references))).toOption =
      ((store.realms.get request.realm).plan? request).map fun plan =>
        request.roles.map fun _ => plan := by
  rw [Request.prepareKeys, bind_eq, toOption_value_bind, value_find, Realm.plan?, Realm.scope?]
  cases (store.realms.get request.realm).group? request.group with
  | none => rfl
  | some group =>
    rw [Option.bind_some, bind_eq, toOption_value_bind, value_find?]
    cases (store.realms.get request.realm).client? request.client with
    | none => rfl
    | some client =>
      cases hroles : request.roles with
      | none =>
        rw [Request.references, hroles]
        rfl
      | some entries =>
        simp only [Option.map_some, Option.bind_some, Option.bind_eq_bind, bind_eq,
          toOption_value_bind, value_findAll, value_read]
        cases request.references.mapM ((store.realms.get request.realm).resolve? group.id
          (ClientTarget.scope client)) <;> rfl

/-- Preparing finds the plan of a request whose references are sound. -/
theorem prepare_eq_ok_iff {found : Option Plan} :
    (request.prepare.run directory store).result = .ok found ↔
      request.checkReferences.isOk = true ∧
        ∃ plan, (store.realms.get request.realm).plan? request = some plan ∧
          found = request.roles.map fun _ => plan := by
  rw [(run_of_readOnly request.readOnly_prepare store).1]
  have hprepare : store.value request.prepare =
      (store.value (Program.check request.checkReferences)).bind fun keys =>
        store.value (request.prepareKeys keys) := value_bind _ _ _
  rw [hprepare]
  cases hcheck : request.checkReferences with
  | error fault =>
    constructor
    · nofun
    · rintro ⟨hcheck, -⟩
      cases hcheck
  | ok keys =>
    obtain ⟨-, -, rfl⟩ := Request.checkReferences_eq_ok hcheck
    show store.value (request.prepareKeys _) = .ok found ↔ _
    have hvalue := value_prepareKeys store request
    constructor
    · intro h
      rw [h] at hvalue
      obtain ⟨plan, hplan, he⟩ := Option.map_eq_some_iff.mp hvalue.symm
      exact ⟨rfl, plan, hplan, he.symm⟩
    · rintro ⟨-, plan, hplan, rfl⟩
      rw [hplan] at hvalue
      cases hresult : store.value (request.prepareKeys
        (request.roles.map fun _ => request.references)) with
      | error problem =>
        rw [hresult] at hvalue
        cases hvalue
      | ok found =>
        rw [hresult] at hvalue
        exact congrArg Except.ok (Option.some.inj hvalue)

/-- Preparing a request whose references are sound, and whose group and client are there, fails
only for a role reference that stands for nothing. -/
theorem prepare_eq_error {group : GroupTarget} {scope : Scope} {problem : Problem}
    (hcheck : request.checkReferences.isOk = true)
    (hgroup : (store.realms.get request.realm).group? request.group = some group)
    (hscope : (store.realms.get request.realm).scope? request = some scope)
    (h : (request.prepare.run directory store).result = .error problem) :
    ∃ key ∈ request.references,
      (store.realms.get request.realm).resolve? group.id scope key = none ∧
        ∃ place, problem = .notFound .role key.handle place := by
  obtain ⟨client, hclient, rfl⟩ := Option.map_eq_some_iff.mp hscope
  cases hkeys : request.checkReferences with
  | error fault =>
    rw [hkeys] at hcheck
    cases hcheck
  | ok keys =>
    obtain ⟨-, -, rfl⟩ := Request.checkReferences_eq_ok hkeys
    -- the group and the client are found, so what fails comes after that
    have hprepare : store.value request.prepare = store.value
        (request.prepareKeys (request.roles.map fun _ => request.references)) :=
      value_bind_of_toOption (by rw [hkeys]; rfl)
    rw [(run_of_readOnly request.readOnly_prepare store).1, hprepare, Request.prepareKeys, bind_eq,
      value_bind_of_toOption ((value_find _ _).trans hgroup), bind_eq,
      value_bind_of_toOption ((value_find? _ _).trans hclient)] at h
    cases hroles : request.roles with
    | none =>
      rw [hroles] at h
      cases h
    | some entries =>
      rw [hroles, Option.map_some] at h
      simp only [bind_eq] at h
      rw [value_bind, value_findAll_eq] at h
      cases hsettle : settled (store.realms.get request.realm) group.id (ClientTarget.scope client)
          (ClientTarget.place request.realm client) request.references with
      | ok roles =>
        rw [hsettle] at h
        cases h
      | error other =>
        rw [hsettle] at h
        cases h
        obtain ⟨key, hkey, hnone, he⟩ := settled_eq_error hsettle
        exact ⟨key, hkey, hnone, _, he⟩

end Store

end GroupRoles.Memory
