import GroupRoles.Directory.Script
import GroupRoles.Proofs.Fulfil.Course
import GroupRoles.Proofs.Fulfil.References

/-!
# Which calls a run makes

The calls of a run are a matter of its request and of the replies that it got. `Event` readings
take from a run's events what the replies told (`Findings`); `Request.stages` lists, for a request
and its findings, the calls of a run that nothing stops, stage by stage. `Staged` says that events
go through stages in order and end at the first stage where a call missed.

`fulfil_calls` is the protocol of a run on any directory: its events are staged by its own
findings.
-/

namespace GroupRoles

open Program

/-! ## What events tell -/

namespace Event

/-- Whether a call got what it asked for: an answer, and if it looked for something, a find. -/
def hit : Event → Bool
  | ⟨.group .., .ok found⟩ => found.isSome
  | ⟨.client .., .ok found⟩ => found.isSome
  | ⟨.role .., .ok found⟩ => found.isSome
  | ⟨_, .ok _⟩ => true
  | ⟨_, .error _⟩ => false

/-- The group that a call found. -/
def group? : Event → Option Group
  | ⟨.group .., .ok found⟩ => found
  | _ => none

/-- The internal client id that a call found. -/
def client? : Event → Option String
  | ⟨.client .., .ok found⟩ => found
  | _ => none

/-- The reply to a lookup of a role. -/
def lookup? : Event → Option (Except Failure (Option Role))
  | ⟨.role .., reply⟩ => some reply
  | _ => none

/-- The available roles that a call listed. -/
def available? : Event → Option (List Role)
  | ⟨.available .., .ok roles⟩ => some roles
  | _ => none

/-- The assigned roles that a call listed. -/
def assigned? : Event → Option (List Role)
  | ⟨.assigned .., .ok roles⟩ => some roles
  | _ => none

end Event

/-- What a run goes by: its group and scope, the desired roles, and the survey. -/
structure Findings where
  group : String
  scope : Scope
  desired : List Role
  survey : Survey

/-- The findings of a request in the events of a run: what the request gives itself, and else
what the replies told first. -/
def Request.findings (request : Request) (events : List Event) : Findings where
  group := request.group.id.getD (((events.findSome? Event.group?).map Group.id).getD "")
  scope := request.client.map fun key => key.id.getD ((events.findSome? Event.client?).getD "")
  desired :=
    (RoleKey.settleAll (.realm request.realm) request.references
      (events.filterMap Event.lookup?)).toOption.getD []
  survey :=
    ⟨(events.findSome? Event.available?).getD [], (events.findSome? Event.assigned?).getD []⟩

/-! ## The calls of a run -/

namespace Call

/-- The group of a call that takes a group. -/
def group? : Call → Option String
  | .group .. | .client .. | .role _ (.named ..) => none
  | .role _ (.mapped id ..) | .available _ id _ | .assigned _ id _ | .change _ _ id _ _ => some id

/-- The scope of a call that takes one. -/
def scope? : Call → Option Scope
  | .group .. | .client .. => none
  | .role _ (.named scope _) | .role _ (.mapped _ scope _) | .available _ _ scope
  | .assigned _ _ scope | .change _ _ _ scope _ => some scope

end Call

namespace Request

/-- The lookup of the group, unless the request gives its id. -/
def groupLookups (request : Request) : List Call :=
  if request.group.id.isSome then [] else [.group request.realm (request.group.name.getD "")]

/-- The lookup of the client, if the request gives one without its id. -/
def clientLookups (request : Request) : List Call :=
  match request.client with
  | none => []
  | some key =>
    if key.id.isSome then [] else [.client request.realm (key.clientId.getD "")]

/-- The lookups of the roles that the request does not fully give, in order. -/
def roleLookups (request : Request) (found : Findings) : List Call :=
  (request.references.filterMap (RoleKey.query? found.group found.scope)).map
    (.role request.realm)

/-- The calls that make the changes and read the assigned roles again, unless there are no
changes or they are only shown. -/
def changeStages (request : Request) (found : Findings) : List (List Call) :=
  let changes := request.goal.changes found.survey found.desired
  if changes.isEmpty || request.dryRun then []
  else
    [[.change request.realm request.goal found.group found.scope changes],
      [.assigned request.realm found.group found.scope]]

/-- The calls of a run that nothing stops, stage by stage. -/
def stages (request : Request) (found : Findings) : List (List Call) :=
  [request.groupLookups, request.clientLookups] ++
    match request.roles with
    | none => []
    | some _ =>
      [request.roleLookups found, [.available request.realm found.group found.scope],
        [.assigned request.realm found.group found.scope]] ++ request.changeStages found

end Request

/-! ## Stages of calls -/

/-- Events go through stages of calls, all of which hit, to the end, or up to a stage where one
missed; the flag says whether they came to the end. -/
inductive Staged : List (List Call) → List Event → Bool → Prop where
  | finished : Staged [] [] true
  | passed {calls : List Call} {stages : List (List Call)} {part events : List Event} {done : Bool}
      (hcalls : part.map Event.call = calls) (hhit : part.all Event.hit = true)
      (rest : Staged stages events done) : Staged (calls :: stages) (part ++ events) done
  | stopped {calls : List Call} {stages : List (List Call)} {part : List Event}
      (hcalls : part.map Event.call = calls) (hmiss : part.all Event.hit = false) :
      Staged (calls :: stages) part false

namespace Staged

variable {α β : Type} {stages more : List (List Call)} {events : List Event} {done : Bool}

/-- One stage, which hits iff it comes to the end. -/
theorem single {calls : List Call} (hcalls : events.map Event.call = calls)
    (hhit : events.all Event.hit = done) : Staged [calls] events done := by
  cases done with
  | true => simpa using passed hcalls hhit finished
  | false => exact stopped hcalls hhit

/-- One call, which comes to the end iff it hits. -/
theorem call (c : Call) (reply : Reply c) : Staged [[c]] [⟨c, reply⟩] (Event.hit ⟨c, reply⟩) :=
  single rfl (Bool.and_true _)

/-- A call that hits, and then the stages after it. -/
theorem cons {c : Call} {reply : Reply c} (hhit : Event.hit ⟨c, reply⟩ = true)
    (rest : Staged stages events done) : Staged ([c] :: stages) (⟨c, reply⟩ :: events) done := by
  have hall : [(⟨c, reply⟩ : Event)].all Event.hit = true := by rw [List.all_cons, hhit]; rfl
  exact passed rfl hall rest

theorem append_of_false (h : Staged stages events false) (more : List (List Call)) :
    Staged (stages ++ more) events false := by
  generalize hd : false = done at h
  induction h with
  | finished => cases hd
  | passed hcalls hhit _ ih => exact passed hcalls hhit (ih hd)
  | stopped hcalls hmiss => exact stopped hcalls hmiss

theorem append_of_true {rest : List Event} (h : Staged stages events true)
    (hrest : Staged more rest done) : Staged (stages ++ more) (events ++ rest) done := by
  generalize hd : true = first at h
  induction h with
  | finished => exact hrest
  | passed hcalls hhit _ ih =>
    rw [List.append_assoc]
    exact passed hcalls hhit (ih hd)
  | stopped => cases hd

/-- Two programs in a row go through the stages of the first and then through those of the
second. -/
theorem of_bind (stages : List (List Call)) {p : Program α} {f : α → Program β}
    {result : Except Problem β} (h : Trace (p.bind f) events result)
    (hp : ∀ {part} {r : Except Problem α}, Trace p part r → Staged stages part r.isOk)
    (hf : ∀ a part rest, Trace p part (.ok a) → Trace (f a) rest result →
      events = part ++ rest → Staged more rest result.isOk) :
    Staged (stages ++ more) events result.isOk := by
  rcases h.of_bind with ⟨problem, hfail, rfl⟩ | ⟨a, part, rest, hdone, hrest, he⟩
  · exact append_of_false (hp hfail) more
  · rw [he]
    exact append_of_true (hp hdone) (hf a part rest hdone hrest he)

/-- Staged events are calls of the stages, from the first on. -/
theorem isPrefix (h : Staged stages events done) :
    events.map Event.call <+: stages.flatten := by
  induction h with
  | finished => exact List.prefix_rfl
  | passed hcalls _ _ ih =>
    rw [List.map_append, hcalls, List.flatten_cons]
    exact (List.prefix_append_right_inj _).mpr ih
  | stopped hcalls _ =>
    rw [hcalls, List.flatten_cons]
    exact List.prefix_append _ _

/-- Events that came to the end made all the calls of the stages. -/
theorem map_call_of_true (h : Staged stages events true) :
    events.map Event.call = stages.flatten := by
  generalize hd : true = done at h
  induction h with
  | finished => rfl
  | passed hcalls _ _ ih => rw [List.map_append, hcalls, ih hd, List.flatten_cons]
  | stopped => cases hd

end Staged

/-! ## The lookups of roles -/

namespace Directory

variable {realm : String} {queries : List RoleQuery}
  {replies : List (Except Failure (Option Role))}

theorem map_call_lookUpEvents (h : replies.length = queries.length) :
    (lookUpEvents realm queries replies).map Event.call = queries.map (.role realm) := by
  have hcall : Event.call ∘ (fun x : RoleQuery × Except Failure (Option Role) =>
      (⟨.role realm x.1, x.2⟩ : Event)) = Call.role realm ∘ Prod.fst := rfl
  rw [lookUpEvents, List.map_map, hcall, ← List.map_map, List.map_fst_zip (by omega)]

theorem filterMap_lookup_lookUpEvents (h : replies.length = queries.length) :
    (lookUpEvents realm queries replies).filterMap Event.lookup? = replies := by
  have hsome : Event.lookup? ∘ (fun x : RoleQuery × Except Failure (Option Role) =>
      (⟨.role realm x.1, x.2⟩ : Event)) = some ∘ Prod.snd := rfl
  rw [lookUpEvents, List.filterMap_map, hsome, ← List.filterMap_map, List.map_snd_zip (by omega)]
  simp

/-- A reading that role lookups say nothing to finds nothing in them. -/
theorem findSome?_lookUpEvents {α : Type} {f : Event → Option α}
    (h : ∀ q reply, f ⟨.role realm q, reply⟩ = none) :
    (lookUpEvents realm queries replies).findSome? f = none := by
  rw [List.findSome?_eq_none_iff]
  intro e he
  obtain ⟨x, -, rfl⟩ := List.mem_map.mp he
  exact h x.1 x.2

end Directory

namespace RoleKey

/-- References are settled iff every lookup hit. -/
theorem isOk_settleAll {realm group : String} {scope : Scope} {place : Place} {keys : List RoleKey}
    {replies : List (Except Failure (Option Role))}
    (h : replies.length = (keys.filterMap (query? group scope)).length) :
    (settleAll place keys replies).isOk =
      (Directory.lookUpEvents realm (keys.filterMap (query? group scope)) replies).all
        Event.hit := by
  induction keys generalizing replies with
  | nil => rfl
  | cons key keys ih =>
    cases hquery : key.query? group scope with
    | none =>
      obtain ⟨role, rfl⟩ := exists_eq_known hquery
      rw [List.filterMap_cons_none hquery] at h ⊢
      rw [← ih h, settleAll]
      cases settleAll place keys replies <;> rfl
    | some query =>
      rw [List.filterMap_cons_some hquery] at h ⊢
      cases replies with
      | nil => cases h
      | cons reply replies =>
        have hrest := ih (Nat.succ.inj h)
        rw [settleAll_cons _ (ne_known hquery), List.headD_cons, List.tail_cons]
        -- the first lookup decides, unless it hit
        cases reply with
        | error failure => rfl
        | ok found =>
          cases found with
          | none => rfl
          | some found =>
            show _ = (Directory.lookUpEvents realm (keys.filterMap (query? group scope))
              replies).all Event.hit
            rw [← hrest]
            cases settleAll place keys replies <;> rfl

end RoleKey

/-! ## The stages of a run -/

section Parts

variable {request : Request} {events : List Event}

theorem staged_group {result : Except Problem GroupTarget}
    (h : request.group.Course request.realm events result) :
    Staged [request.groupLookups] events result.isOk := by
  generalize hkey : request.group = key at h
  cases h <;> exact .single (by simp [Request.groupLookups, hkey]) rfl

theorem staged_client {result : Except Problem (Option ClientTarget)}
    (h : ClientKey.Course request.realm request.client events result) :
    Staged [request.clientLookups] events result.isOk := by
  generalize hclient : request.client = client at h
  cases h <;> exact .single (by simp [Request.clientLookups, hclient]) rfl

theorem staged_survey {realm group : String} {scope : Scope} {result : Except Problem Survey}
    (h : Survey.Course realm group scope events result) :
    Staged [[.available realm group scope], [.assigned realm group scope]] events
      result.isOk := by
  cases h with
  | availableRefused failure => exact .stopped rfl rfl
  | assignedRefused available failure =>
    exact .cons rfl (.call _ _)
  | read available assigned =>
    exact .cons rfl (.call _ _)

theorem staged_changes {found : Findings} {result : Except Problem Effect}
    (h : request.goal.Course request.realm found.group found.scope
      (request.goal.changes found.survey found.desired) request.dryRun events result) :
    Staged (request.changeStages found) events result.isOk := by
  cases h with
  | nothing hnone =>
    rw [Request.changeStages, hnone]
    exact .finished
  | previewed hsome hdry =>
    rw [Request.changeStages, hdry, Bool.or_true]
    exact .finished
  | refused hsome hlive failure =>
    rw [Request.changeStages, hlive, Bool.or_false, if_neg (by simpa using hsome)]
    exact .stopped rfl rfl
  | unread hsome hlive failure =>
    rw [Request.changeStages, hlive, Bool.or_false, if_neg (by simpa using hsome)]
    exact .cons rfl (.call _ _)
  | applied hsome hlive endState =>
    rw [Request.changeStages, hlive, Bool.or_false, if_neg (by simpa using hsome)]
    exact .cons rfl (.call _ _)

end Parts

/-! ## What a run's own events tell -/

section Findings

variable {request : Request} {part : List Event}

/-- The group that was found is the one that the events tell. -/
theorem findings_group {target : GroupTarget} (rest : List Event)
    (h : request.group.Course request.realm part (.ok target)) :
    (request.findings (part ++ rest)).group = target.id := by
  generalize hkey : request.group = key at h
  cases h <;> simp only [Request.findings, hkey] <;> rfl

/-- The scope that was found is the one that the events tell. -/
theorem findings_scope {before : List Event} {client : Option ClientTarget} (rest : List Event)
    (hbefore : before.findSome? Event.client? = none)
    (h : ClientKey.Course request.realm request.client part (.ok client)) :
    (request.findings (before ++ (part ++ rest))).scope = ClientTarget.scope client := by
  generalize hclient : request.client = key at h
  cases h <;> simp only [Request.findings, hclient, List.findSome?_append, hbefore, Option.none_or]
    <;> rfl

theorem group_readings {result : Except Problem GroupTarget}
    (h : request.group.Course request.realm part result) :
    part.findSome? Event.client? = none ∧ part.filterMap Event.lookup? = [] ∧
      part.findSome? Event.available? = none ∧ part.findSome? Event.assigned? = none := by
  generalize request.group = key at h
  cases h <;> exact ⟨rfl, rfl, rfl, rfl⟩

theorem client_readings {result : Except Problem (Option ClientTarget)}
    (h : ClientKey.Course request.realm request.client part result) :
    part.filterMap Event.lookup? = [] ∧ part.findSome? Event.available? = none ∧
      part.findSome? Event.assigned? = none := by
  generalize request.client = key at h
  cases h <;> exact ⟨rfl, rfl, rfl⟩

theorem lookups_readings {realm : String} {queries : List RoleQuery}
    {replies : List (Except Failure (Option Role))}
    (h : part = Directory.lookUpEvents realm queries replies) :
    part.findSome? Event.available? = none ∧ part.findSome? Event.assigned? = none := by
  subst h
  exact ⟨Directory.findSome?_lookUpEvents fun _ _ => rfl,
    Directory.findSome?_lookUpEvents fun _ _ => rfl⟩

theorem changes_readings {goal : Goal} {realm group : String} {scope : Scope}
    {changes : List Role} {dryRun : Bool} {result : Except Problem Effect}
    (h : goal.Course realm group scope changes dryRun part result) :
    part.filterMap Event.lookup? = [] := by
  cases h <;> rfl

/-- The roles that the lookups settle are those that the events tell. -/
theorem findings_desired {events : List Event} {place : Place} {desired : List Role}
    {replies : List (Except Failure (Option Role))}
    (hlookups : events.filterMap Event.lookup? = replies)
    (h : RoleKey.settleAll place request.references replies = .ok desired) :
    (request.findings events).desired = desired := by
  have hsettle := RoleKey.settleAll_eq_ok (.realm request.realm) h
  simp only [Request.findings, hlookups, hsettle]
  rfl

/-- The survey that was read is the one that the events tell. -/
theorem findings_survey {before : List Event} {realm group : String} {scope : Scope}
    {available assigned : List Role} (rest : List Event)
    (havailable : before.findSome? Event.available? = none)
    (hassigned : before.findSome? Event.assigned? = none) :
    (request.findings (before ++ ([⟨.available realm group scope, .ok available⟩,
      ⟨.assigned realm group scope, .ok assigned⟩] ++ rest))).survey = ⟨available, assigned⟩ := by
  simp only [Request.findings, List.findSome?_append, havailable, hassigned, Option.none_or]
  rfl

end Findings

namespace Request

/-- The program of a request with sound references goes through the stages that its own events
tell. -/
theorem staged_fulfilKeys {request : Request} {events : List Event} {result : Except Problem Report}
    (hgroup : request.group.check = .ok ()) (hclient : ∀ key ∈ request.client, key.check = .ok ())
    (h : Trace (request.fulfilKeys (request.roles.map fun _ => request.references)) events
      result) :
    Staged (request.stages (request.findings events)) events result.isOk := by
  refine Staged.of_bind [request.groupLookups] h
    (fun hpart => staged_group (GroupKey.course_of_trace hgroup hpart))
    fun target part₁ rest₁ hpart₁ hrest₁ he₁ => ?_
  replace hpart₁ := GroupKey.course_of_trace hgroup hpart₁
  refine Staged.of_bind [request.clientLookups] hrest₁
    (fun hpart => staged_client (ClientKey.course_of_trace hclient hpart))
    fun client part₂ rest₂ hpart₂ hrest₂ he₂ => ?_
  replace hpart₂ := ClientKey.course_of_trace hclient hpart₂
  obtain ⟨hclient₁, hlookup₁, havailable₁, hassigned₁⟩ := group_readings hpart₁
  obtain ⟨hlookup₂, havailable₂, hassigned₂⟩ := client_readings hpart₂
  have hfgroup : (request.findings events).group = target.id := by
    rw [he₁]
    exact findings_group rest₁ hpart₁
  have hfscope : (request.findings events).scope = ClientTarget.scope client := by
    rw [he₁, he₂]
    exact findings_scope rest₂ hclient₁ hpart₂
  cases hroles : request.roles with
  | none =>
    simp only [hroles, Option.map_none] at hrest₂
    obtain ⟨rfl, rfl⟩ := hrest₂.of_done
    exact .finished
  | some entries =>
    simp only [hroles, Option.map_some] at hrest₂
    refine Staged.of_bind [request.roleLookups (request.findings events)] hrest₂
      ?_ fun desired part₃ rest₃ hpart₃ hrest₃ he₃ => ?_
    · intro part r hpart
      obtain ⟨replies, hlen, rfl, rfl⟩ := RoleKey.course_of_trace hpart
      refine .single ?_ (RoleKey.isOk_settleAll hlen).symm
      rw [Directory.map_call_lookUpEvents hlen, roleLookups, hfgroup, hfscope]
    obtain ⟨replies, hlen, hpart₃, hsettle⟩ := RoleKey.course_of_trace hpart₃
    rw [hfgroup, hfscope]
    refine Staged.of_bind _ hrest₃ (fun hpart => staged_survey (Survey.course_of_trace hpart))
      fun survey part₄ rest₄ hpart₄ hrest₄ he₄ => ?_
    obtain ⟨available, assigned⟩ := Survey.course_of_trace hpart₄
    obtain ⟨before, happly, rfl⟩ := Trace.of_map hrest₄
    have hcourse := Goal.course_of_trace happly
    have hsurvey : (request.findings events).survey = ⟨available, assigned⟩ := by
      obtain ⟨havailable₃, hassigned₃⟩ := lookups_readings hpart₃
      rw [he₁, he₂, he₃, he₄, ← List.append_assoc, ← List.append_assoc]
      refine findings_survey rest₄ ?_ ?_
      · simp only [List.findSome?_append, havailable₁, havailable₂, havailable₃, Option.none_or]
      · simp only [List.findSome?_append, hassigned₁, hassigned₂, hassigned₃, Option.none_or]
    have hdesired : (request.findings events).desired = desired := by
      refine findings_desired ?_ hsettle.symm
      rw [he₁, he₂, he₃, he₄, List.filterMap_append, List.filterMap_append, List.filterMap_append,
        List.filterMap_append, hlookup₁, hlookup₂, changes_readings hcourse, hpart₃,
        Directory.filterMap_lookup_lookUpEvents hlen]
      exact List.append_nil _
    have hstaged : request.goal.Course request.realm (request.findings events).group
        (request.findings events).scope
        (request.goal.changes (request.findings events).survey (request.findings events).desired)
        request.dryRun rest₄ before →
        Staged (request.changeStages (request.findings events)) rest₄ before.isOk := staged_changes
    rw [hfgroup, hfscope, hsurvey, hdesired] at hstaged
    have hmap : ∀ f : Effect → Report, (before.map f).isOk = before.isOk := by
      intro f
      cases before <;> rfl
    rw [hmap]
    exact hstaged hcourse

/-- A call goes to a request's realm, and to no other group or scope than the one found. -/
def Aimed (request : Request) (found : Findings) (call : Call) : Prop :=
  call.realm = request.realm ∧ (∀ group ∈ call.group?, group = found.group) ∧
    ∀ scope ∈ call.scope?, scope = found.scope

variable {request : Request} {found : Findings} {call : Call}

theorem aimed_of_mem_groupLookups (h : call ∈ request.groupLookups) :
    request.Aimed found call := by
  unfold groupLookups at h
  split at h
  · cases h
  · rw [List.mem_singleton.mp h]
    simp [Aimed, Call.realm, Call.group?, Call.scope?]

theorem aimed_of_mem_clientLookups (h : call ∈ request.clientLookups) :
    request.Aimed found call := by
  unfold clientLookups at h
  split at h
  · cases h
  · split at h
    · cases h
    · rw [List.mem_singleton.mp h]
      simp [Aimed, Call.realm, Call.group?, Call.scope?]

theorem aimed_of_mem_roleLookups (h : call ∈ request.roleLookups found) :
    request.Aimed found call := by
  obtain ⟨query, hquery, rfl⟩ := List.mem_map.mp h
  obtain ⟨key, -, hkey⟩ := List.mem_filterMap.mp hquery
  cases key with
  | known role => cases hkey
  | byName name =>
    cases hkey
    simp [Aimed, Call.realm, Call.group?, Call.scope?]
  | byId id =>
    cases hkey
    simp [Aimed, Call.realm, Call.group?, Call.scope?]

theorem aimed_available :
    request.Aimed found (.available request.realm found.group found.scope) := by
  simp [Aimed, Call.realm, Call.group?, Call.scope?]

theorem aimed_assigned :
    request.Aimed found (.assigned request.realm found.group found.scope) := by
  simp [Aimed, Call.realm, Call.group?, Call.scope?]

theorem aimed_of_mem_changeStages (h : call ∈ (request.changeStages found).flatten) :
    request.Aimed found call := by
  rw [changeStages] at h
  split at h
  · cases h
  · rcases List.mem_cons.mp h with rfl | h
    · simp [Aimed, Call.realm, Call.group?, Call.scope?]
    · rw [List.mem_singleton.mp h]
      exact aimed_assigned

/-- Every call of the stages is aimed at what was found. -/
theorem aimed_of_mem_stages (h : call ∈ (request.stages found).flatten) :
    request.Aimed found call := by
  rw [stages, List.flatten_append, List.mem_append] at h
  rcases h with hlookups | hrest
  · rw [List.flatten_cons, List.flatten_singleton, List.mem_append] at hlookups
    exact hlookups.elim aimed_of_mem_groupLookups aimed_of_mem_clientLookups
  · split at hrest
    · cases hrest
    · simp only [List.flatten_append, List.flatten_cons, List.flatten_nil, List.append_nil,
        List.mem_append, List.mem_singleton] at hrest
      rcases hrest with (hrole | rfl | rfl) | hchange
      · exact aimed_of_mem_roleLookups hrole
      · exact aimed_available
      · exact aimed_assigned
      · exact aimed_of_mem_changeStages hchange

/-- The protocol of a run, on any directory and whatever it answers. A request with an empty
reference makes no call. Any other goes through the stages of its own findings, in order, up to
the first stage where a call missed, which is where a failed run ends; a run with a report made
all the calls. Every call names the request's realm and the one group and scope found, and that
scope is a client's iff the request gives one. -/
theorem fulfil_calls {σ : Type} (request : Request) (d : Directory σ) (s : σ) :
    let run := request.fulfil.run d s
    let found := request.findings run.events
    run.calls <+: (request.stages found).flatten ∧
      (run.result.isOk = true → run.calls = (request.stages found).flatten) ∧
      (match request.checkReferences with
        | .error _ => run.events = []
        | .ok _ => Staged (request.stages found) run.events run.result.isOk) ∧
      ∀ call ∈ run.calls,
        call.realm = request.realm ∧ (∀ group ∈ call.group?, group = found.group) ∧
          ∀ scope ∈ call.scope?, scope = found.scope ∧ scope.isSome = request.client.isSome := by
  intro run found
  have htrace : Trace request.fulfil run.events run.result := trace_run d request.fulfil s
  unfold fulfil at htrace
  have haimed : ∀ call ∈ (request.stages found).flatten,
      call.realm = request.realm ∧ (∀ group ∈ call.group?, group = found.group) ∧
        ∀ scope ∈ call.scope?, scope = found.scope ∧ scope.isSome = request.client.isSome := by
    intro call hcall
    obtain ⟨hrealm, hgroup, hscope⟩ := aimed_of_mem_stages hcall
    refine ⟨hrealm, hgroup, fun scope hs => ⟨hscope scope hs, ?_⟩⟩
    rw [hscope scope hs]
    exact Option.isSome_map
  cases hcheck : request.checkReferences with
  | error fault =>
    rw [hcheck] at htrace
    obtain ⟨hevents, hresult⟩ := Trace.of_fail htrace
    have hcalls : run.calls = [] := by rw [Outcome.calls, hevents, List.map_nil]
    refine ⟨by rw [hcalls]; exact List.nil_prefix, ?_, hevents, by rw [hcalls]; nofun⟩
    rw [hresult]
    nofun
  | ok keys =>
    rw [hcheck] at htrace
    obtain ⟨hgroup, hclient, rfl⟩ := checkReferences_eq_ok hcheck
    have hstaged : Staged (request.stages found) run.events run.result.isOk :=
      staged_fulfilKeys hgroup hclient htrace
    refine ⟨hstaged.isPrefix, fun hok => ?_, hstaged, fun call hcall => ?_⟩
    · rw [hok] at hstaged
      exact hstaged.map_call_of_true
    · exact haimed call (hstaged.isPrefix.subset hcall)

/-- A run that looks up its group, its client and two roles, and maps one of them. -/
theorem fulfil_calls_portal :
    let request : Request :=
      { group := { name := some "staff" }, client := some { clientId := some "portal" },
        roles := some [{ name := some "reader" }, { id := some "r2" }] }
    let script : Script :=
      { group := [.ok (some ⟨"g1", "staff"⟩)], client := [.ok (some "c1")],
        named := { client := [.ok (some ⟨"r1", "reader"⟩)] },
        mapped := { client := [.ok (some ⟨"r2", "writer"⟩)] },
        available := { client := [.ok [⟨"r1", "reader"⟩]] },
        assigned := { client := [.ok [⟨"r2", "writer"⟩]] } }
    let run := request.fulfil.run Script.directory script
    let change := Call.change "master" .present "g1" (some "c1") [⟨"r1", "reader"⟩]
    run.result.isOk = true ∧ run.calls = (request.stages (request.findings run.events)).flatten ∧
      change ∈ run.calls ∧ change.realm = request.realm := by
  intro request script run change
  have hok : run.result.isOk = true := by decide +kernel
  have hmem : change ∈ run.calls := by decide +kernel
  have h := fulfil_calls request Script.directory script
  exact ⟨hok, h.2.1 hok, hmem, (h.2.2.2 change hmem).1⟩

end Request

end GroupRoles
