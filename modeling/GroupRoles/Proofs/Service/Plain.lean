import GroupRoles.Proofs.Directory.Agree
import GroupRoles.Proofs.Fulfil.References
import GroupRoles.Proofs.Service.Resource

/-!
# Requests with plain names

Names become segments of URLs. Where a request gives only plain ones, and the groups and clients
that are found for it have plain ids, every call that it makes asks for plain segments
(`keeps_fulfil`).
-/

namespace GroupRoles

/-- The realm is plain, and so are the given ids of the group and of the client and the names of the
roles that are looked up by them. -/
structure Request.IsPlain (request : Request) : Prop where
  realm : Url.IsPlain request.realm
  group : ∀ id ∈ request.group.id, Url.IsPlain id
  client : ∀ key ∈ request.client, ∀ id ∈ key.id, Url.IsPlain id
  roles : ∀ name, .byName name ∈ request.references → Url.IsPlain name

namespace Service

/-- A group or a client that is found has a plain id. -/
def PlainAnswer : (c : Call) → c.Answer → Prop
  | .group .., answer => ∀ group ∈ answer, Url.IsPlain group.id
  | .client .., answer => ∀ id ∈ answer, Url.IsPlain id
  | _, _ => True

variable {realm : String}

/-! ## Finding -/

/-- The group that is found has a plain id. -/
theorem keeps_findGroup (hrealm : Url.IsPlain realm) {key : GroupKey}
    (h : ∀ id ∈ key.id, Url.IsPlain id) :
    (key.find realm).Keeps PlainCall PlainAnswer fun target => Url.IsPlain target.id := by
  match key with
  | ⟨some id, name⟩ => exact h id rfl
  | ⟨none, none⟩ => trivial
  | ⟨none, some name⟩ =>
    have hgroups : ∀ text ∈ Resource.groups.segments, Url.IsPlain text := by decide
    refine ⟨⟨hrealm, hgroups⟩, fun answer hanswer => ?_⟩
    cases answer with
    | none => trivial
    | some group => exact hanswer group rfl

/-- The client that is found has a plain id. -/
theorem keeps_findClient (hrealm : Url.IsPlain realm) {key : Option ClientKey}
    (h : ∀ client ∈ key, ∀ id ∈ client.id, Url.IsPlain id) :
    (ClientKey.find? realm key).Keeps PlainCall PlainAnswer
      fun target => ∀ id ∈ ClientTarget.scope target, Url.IsPlain id := by
  have hfound : ∀ {target : ClientTarget}, Url.IsPlain target.id →
      ∀ id ∈ ClientTarget.scope (some target), Url.IsPlain id := by
    rintro target htarget id ⟨⟩
    exact htarget
  match key with
  | none =>
    intro id hid
    cases hid
  | some ⟨some id, clientId⟩ => exact hfound (h _ rfl id rfl)
  | some ⟨none, none⟩ => trivial
  | some ⟨none, some clientId⟩ =>
    have hclients : ∀ text ∈ Resource.clients.segments, Url.IsPlain text := by decide
    refine ⟨⟨hrealm, hclients⟩, fun answer hanswer => ?_⟩
    cases answer with
    | none => trivial
    | some id => exact hfound (hanswer id rfl)

/-! ## Roles and mappings -/

section

variable {group : String} {scope : Scope}

theorem plain_mapping (hgroup : Url.IsPlain group) (hscope : ∀ id ∈ scope, Url.IsPlain id)
    (view : View) : ∀ text ∈ (Resource.mapping group scope view).segments, Url.IsPlain text := by
  intro text htext
  have hview : ∀ text ∈ view.segments, Url.IsPlain text := by
    cases view <;> decide
  have hscopes : ∀ text ∈ scopeSegments scope, Url.IsPlain text := by
    cases scope with
    | none => decide
    | some client =>
      intro text htext
      rcases List.mem_cons.mp htext with rfl | htext
      · decide
      · exact hscope text (List.mem_singleton.mp htext ▸ rfl)
  simp only [Resource.segments, List.mem_append, List.mem_cons, List.not_mem_nil, or_false] at htext
  rcases htext with ((rfl | rfl | rfl) | htext) | htext
  · decide
  · exact hgroup
  · decide
  · exact hscopes text htext
  · exact hview text htext

theorem plain_role {name : String} (hname : Url.IsPlain name)
    (hscope : ∀ id ∈ scope, Url.IsPlain id) :
    ∀ text ∈ (Resource.role scope name).segments, Url.IsPlain text := by
  intro text htext
  cases scope with
  | none =>
    simp only [Resource.segments, List.mem_cons, List.not_mem_nil, or_false] at htext
    rcases htext with rfl | rfl
    · decide
    · exact hname
  | some client =>
    simp only [Resource.segments, List.mem_cons, List.not_mem_nil, or_false] at htext
    rcases htext with rfl | rfl | rfl | rfl
    · decide
    · exact hscope _ rfl
    · decide
    · exact hname

/-- The lookups of roles ask for plain segments. -/
theorem keeps_findAll (hrealm : Url.IsPlain realm) (hgroup : Url.IsPlain group)
    {client : Option ClientTarget} (hscope : ∀ id ∈ ClientTarget.scope client, Url.IsPlain id)
    {keys : List RoleKey} (hkeys : ∀ name, .byName name ∈ keys → Url.IsPlain name) :
    (RoleKey.findAll realm group client keys).Keeps PlainCall PlainAnswer fun _ => True := by
  refine ⟨fun query hquery => ?_, fun replies => ?_⟩
  · obtain ⟨key, hkey, hkeyQuery⟩ := List.mem_filterMap.mp hquery
    cases key with
    | known role => cases hkeyQuery
    | byName name =>
      cases hkeyQuery
      exact ⟨hrealm, plain_role (hkeys name hkey) hscope⟩
    | byId id =>
      cases hkeyQuery
      exact ⟨hrealm, plain_mapping hgroup hscope .direct⟩
  · dsimp only
    split <;> trivial

theorem keeps_survey (hrealm : Url.IsPlain realm) (hgroup : Url.IsPlain group)
    (hscope : ∀ id ∈ scope, Url.IsPlain id) :
    (Survey.read realm group scope).Keeps PlainCall PlainAnswer fun _ => True :=
  ⟨⟨hrealm, plain_mapping hgroup hscope .available⟩, fun _ _ =>
    ⟨⟨hrealm, plain_mapping hgroup hscope .effective⟩, fun _ _ => trivial⟩⟩

theorem keeps_apply (hrealm : Url.IsPlain realm) (hgroup : Url.IsPlain group)
    (hscope : ∀ id ∈ scope, Url.IsPlain id) (goal : Goal) (changes : List Role) (dryRun : Bool) :
    (goal.apply realm group scope changes dryRun).Keeps PlainCall PlainAnswer fun _ => True := by
  unfold Goal.apply
  cases changes.isEmpty with
  | true => trivial
  | false =>
    cases dryRun with
    | true => trivial
    | false =>
      exact ⟨⟨hrealm, plain_mapping hgroup hscope .direct⟩, fun _ _ =>
        ⟨⟨hrealm, plain_mapping hgroup hscope .effective⟩, fun _ _ => trivial⟩⟩

end

/-! ## Whole requests -/

/-- Every call of a plain request asks for plain segments, as long as the ids that are found for it
are plain. -/
theorem keeps_fulfil {request : Request} (h : request.IsPlain) :
    request.fulfil.Keeps PlainCall PlainAnswer fun _ => True := by
  unfold Request.fulfil
  cases hcheck : request.checkReferences with
  | error fault => trivial
  | ok keys =>
    have hkeys : keys = request.roles.map fun _ => request.references :=
      (Request.checkReferences_eq_ok hcheck).2.2
    change (request.fulfilKeys keys).Keeps _ _ _
    refine Program.Keeps.bind (keeps_findGroup h.realm h.group) fun group hgroup => ?_
    refine Program.Keeps.bind (keeps_findClient h.realm h.client) fun client hclient => ?_
    cases keys with
    | none => trivial
    | some keys =>
      -- the keys are the references of the request
      have hnames : ∀ name, .byName name ∈ keys → Url.IsPlain name := by
        intro name hname
        obtain ⟨_, -, rfl⟩ := Option.map_eq_some_iff.mp hkeys.symm
        exact h.roles name hname
      refine Program.Keeps.bind (keeps_findAll h.realm hgroup hclient hnames) fun desired _ => ?_
      refine Program.Keeps.bind (keeps_survey h.realm hgroup hclient) fun survey _ => ?_
      exact Program.Keeps.bind (keeps_apply h.realm hgroup hclient _ _ _) fun effect _ => trivial

end Service

end GroupRoles
