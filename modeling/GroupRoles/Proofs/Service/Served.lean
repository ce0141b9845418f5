import GroupRoles.Proofs.Memory.Mapping
import GroupRoles.Proofs.Memory.Value
import GroupRoles.Proofs.Service.Host
import GroupRoles.Proofs.Service.Plain
import GroupRoles.Proofs.Service.Token

/-!
# A service that serves a store

Where a network serves the realms of a store (`Service.Serves`), a request with plain names has the
same outcome by the service as on the store itself, but for the reason of a failed change
(`fulfil_served`). The two directories agree call by call (`agree_of_serves`).
-/

namespace GroupRoles.Service

open Http

variable {σ : Type}

/-! ## What is read -/

section

variable {s : Service} {response : Response}

theorem fetched_of_decode {α : Type} {shape : Shape α} {a : α} (url : Url)
    (hstatus : response.status = 200) (h : decode shape response.body = .ok a) :
    fetched shape url response = .ok a := by
  have hsuccess : response.isSuccess = true := by
    rw [Response.isSuccess, hstatus]
    rfl
  rw [fetched, if_pos hsuccess, h]
  rfl

/-- A search through groups without groups below them. -/
theorem findFirst?_map (name : String) (groups : List Group) :
    GroupTree.findFirst? name (groups.map fun group => .node group.id group.name []) =
      groups.find? (·.name = name) := by
  induction groups with
  | nil => rfl
  | cons group rest ih =>
    rw [List.map_cons, GroupTree.findFirst?, GroupTree.find?, List.find?_cons]
    by_cases hname : group.name = name
    · rw [if_pos hname, decide_eq_true hname]
    · rw [if_neg hname, decide_eq_false hname, GroupTree.findFirst?]
      exact ih

/-- The mapped role of an id, found in the list of the mapped roles. -/
theorem find?_viewed (realm : Memory.Realm) (group : String) (scope : Scope) (id : String) :
    (realm.viewed group scope .direct).find? (·.id = id) = realm.role? (.mapped group scope id) := by
  simp only [Memory.Realm.viewed, Memory.Realm.select, Memory.Realm.role?, List.find?_map,
    List.find?_filter]
  congr 2
  funext entry
  by_cases hid : entry.role.id = id
  · subst hid
    simp
  · simp [hid]

/-- A call that changes nothing reads from a response what a store with the same realms replies. -/
theorem replyTo_of_shows {c : Call} (hc : c.isChange = false) {store : Memory.Store}
    (h : Shows (store.realms.get c.realm) response (callResource c)) :
    s.replyTo c response = (Memory.Store.answer c store).1 := by
  match c with
  | .group realm name =>
    have hdecode : decode (.list (GroupTree.shape maxGroupDepth)) response.body =
        .ok ((store.realms.get realm).groups.map fun group => .node group.id group.name []) :=
      decode_list h.2 fun group draft hdraft => GroupTree.read_shape hdraft 126 124
    rw [replyTo, fetched_of_decode _ h.1 hdecode, Except.map, findFirst?_map]
    rfl
  | .client realm clientId =>
    have hdecode : decode (.list ClientItem.shape) response.body =
        .ok ((store.realms.get realm).clients.map fun client => ⟨client.id, client.clientId⟩) :=
      decode_list h.2 fun client draft hdraft => ClientItem.read_shape hdraft 125
    rw [replyTo, fetched_of_decode _ h.1 hdecode, Except.map, List.find?_map, Option.map_map]
    rfl
  | .role realm (.named scope name) =>
    have hrole : (Memory.Store.answer (.role realm (.named scope name)) store).1 =
        .ok ((store.realms.get realm).role? (.named scope name)) := rfl
    rw [hrole, replyTo]
    unfold Shows callResource at h
    dsimp only [Call.realm] at h
    cases hfound : (store.realms.get realm).role? (.named scope name) with
    | none =>
      rw [hfound] at h
      rw [if_pos h]
    | some role =>
      rw [hfound] at h
      have hne : response.status ≠ 404 := by omega
      -- a role that stands alone is one level less deep than one in a list
      have hdecode := decode_of_tells h.2 fun draft hdraft => Role.read_shape hdraft 126
      rw [if_neg hne, fetched_of_decode _ h.1 hdecode]
      rfl
  | .role realm (.mapped group scope id) =>
    have hdecode := decode_of_tells h.2 fun draft hdraft => read_roles hdraft 125
    rw [replyTo, fetched_of_decode _ h.1 hdecode, Except.map, find?_viewed]
    rfl
  | .available realm group scope =>
    exact fetched_of_decode _ h.1 (decode_of_tells h.2 fun draft hdraft => read_roles hdraft 125)
  | .assigned realm group scope =>
    exact fetched_of_decode _ h.1 (decode_of_tells h.2 fun draft hdraft => read_roles hdraft 125)

end

/-! ## What is changed -/

/-- The ids of all groups and clients are plain. -/
def PlainIds (realms : Table String Memory.Realm) : Prop :=
  ∀ name, (∀ group ∈ (realms.get name).groups, Url.IsPlain group.id) ∧
    ∀ client ∈ (realms.get name).clients, Url.IsPlain client.id

/-- How a change goes hangs on the realms only. -/
theorem change_congr (store other : Memory.Store) (h : other.realms = store.realms)
    (realm : String) (goal : Goal) (group : String) (scope : Scope) (roles : List Role) :
    (other.change realm goal group scope roles).1 = (store.change realm goal group scope roles).1 ∧
      (other.change realm goal group scope roles).2.realms =
        (store.change realm goal group scope roles).2.realms := by
  unfold Memory.Store.change
  rw [h]
  cases store.realms.get? realm with
  | none => exact ⟨rfl, h⟩
  | some r =>
    dsimp only
    cases r.unknown? scope roles with
    | some role => exact ⟨rfl, h⟩
    | none =>
      dsimp only [Memory.Store.edit]
      rw [h]
      exact ⟨rfl, rfl⟩

/-- A change leaves the groups and clients of every realm as they are. -/
theorem plainIds_change (store : Memory.Store) (h : PlainIds store.realms)
    (realm : String) (goal : Goal) (group : String) (scope : Scope) (roles : List Role) :
    PlainIds (store.change realm goal group scope roles).2.realms := by
  unfold Memory.Store.change
  cases store.realms.get? realm with
  | none => exact h
  | some r =>
    dsimp only
    cases r.unknown? scope roles with
    | some role => exact h
    | none =>
      -- only mappings of one realm are changed
      have hshifted : Memory.Shifted realm goal group scope roles store.realms
          (store.realms.update realm fun r => r.change goal group scope roles) :=
        .update store.realms
      intro name
      by_cases hname : name = realm
      · subst hname
        change (∀ other ∈ ((store.realms.update name _).get name).groups, _) ∧
          ∀ client ∈ ((store.realms.update name _).get name).clients, _
        rw [hshifted.groups, hshifted.clients]
        exact h name
      · change (∀ other ∈ ((store.realms.update realm _).get name).groups, _) ∧
          ∀ client ∈ ((store.realms.update realm _).get name).clients, _
        rw [hshifted.realms name hname]
        exact h name

/-- A call that makes a change replies by the status. -/
theorem replyTo_change {s : Service} {response : Response} {realm group : String} {scope : Scope}
    {goal : Goal} {roles : List Role} {result : Except Failure Unit}
    (h : response.status = changeStatus result) :
    s.replyTo (.change realm goal group scope roles) response = result ∨
      ∃ failure failure', s.replyTo (.change realm goal group scope roles) response =
        .error failure ∧ result = .error failure' := by
  cases result with
  | ok _ =>
    have hsuccess : response.isSuccess = true := by
      rw [Response.isSuccess, h]
      rfl
    exact .inl (if_pos hsuccess)
  | error failure' =>
    have hsuccess : ¬ response.isSuccess = true := by
      rw [Response.isSuccess, h, changeStatus]
      decide
    exact .inr ⟨_, failure', if_neg hsuccess, rfl⟩

/-! ## Both directories -/

/-- The network has the realms of the store in stock, and they have plain ids. -/
structure Stocked (stock : σ → Table String Memory.Realm) (a : Session σ) (store : Memory.Store) :
    Prop where
  realms : stock a.network = store.realms
  plain : PlainIds store.realms

section

variable {s : Service} {bearer : String} {n : Network σ} {stock : σ → Table String Memory.Realm}

section

variable (htoken : s.credentials = .token bearer)
  (hsendable : bearer.toList.all Request.isSendable = true)
include htoken hsendable

/-- With a given token every call is one request, and it is sent. -/
theorem answer_of_given (c : Call) (a : Session σ) :
    (directory n s).answer c a =
      (s.replyOf c (n.send (s.callRequest bearer c) a.network).1,
        ⟨(n.send (s.callRequest bearer c) a.network).2,
          keptAfter a.kept (n.send (s.callRequest bearer c) a.network).1⟩) := by
  have hcall : (s.callRequest bearer c).sendable = true := by
    rw [callRequest_eq]
    exact hsendable
  exact answer_of_token (run_token_of_given htoken) hcall

variable (hserves : s.Serves bearer n stock)
include hserves

/-- A call that changes nothing has the reply of the store, and leaves the stock as it is. -/
theorem answer_read {c : Call} (hc : c.isChange = false) (hplain : PlainCall c) {a : Session σ}
    {store : Memory.Store} (hstock : stock a.network = store.realms) :
    ((directory n s).answer c a).1 = (Memory.Store.directory.answer c store).1 ∧
      stock ((directory n s).answer c a).2.network = store.realms := by
  have hrequest := s.callRequest_of_not_isChange bearer hc
  have hurl : s.resource? (s.callRequest bearer c).url = some (c.realm, callResource c) := by
    rw [hrequest]
    exact s.resource?_callUrl hplain
  obtain ⟨response, hsend, hshows, hkept⟩ :=
    hserves.read (a := a.network) (by rw [hrequest]) (by rw [hrequest]) hurl
  rw [hstock] at hshows hkept
  rw [answer_of_given htoken hsendable c a, hsend]
  exact ⟨replyTo_of_shows hc hshows, hkept⟩

/-- A call that makes a change has the reply of the store, or both fail; the stock is changed as the
store is. -/
theorem answer_change {realm group : String} {scope : Scope} {goal : Goal} {roles : List Role}
    (hplain : PlainCall (.change realm goal group scope roles)) {a : Session σ}
    {store : Memory.Store} (hstock : stock a.network = store.realms) :
    (((directory n s).answer (.change realm goal group scope roles) a).1 =
        (Memory.Store.directory.answer (.change realm goal group scope roles) store).1 ∨
      ∃ failure failure',
        ((directory n s).answer (.change realm goal group scope roles) a).1 = .error failure ∧
        (Memory.Store.directory.answer (.change realm goal group scope roles) store).1 =
          .error failure') ∧
      stock ((directory n s).answer (.change realm goal group scope roles) a).2.network =
        (Memory.Store.directory.answer (.change realm goal group scope roles) store).2.realms := by
  obtain ⟨response, hsend, hstatus, hkept⟩ := hserves.change
    (r := s.callRequest bearer (.change realm goal group scope roles)) (a := a.network) rfl rfl
    (s.resource?_callUrl hplain) (ofJsonText_rolesBody roles)
  obtain ⟨hreply, hrealms⟩ :=
    change_congr (store.counted true) { realms := stock a.network } hstock realm goal group scope roles
  have hstatus := hstatus.trans (congrArg changeStatus hreply)
  have hkept := hkept.trans hrealms
  rw [answer_of_given htoken hsendable _ a, hsend]
  exact ⟨replyTo_change hstatus, hkept⟩

end

/-- The groups and clients that a store finds are its own. -/
theorem plainAnswer_of_plainIds {store : Memory.Store} (h : PlainIds store.realms) {c : Call}
    {answer : c.Answer} (hanswer : (Memory.Store.directory.answer c store).1 = .ok answer) :
    PlainAnswer c answer := by
  match c with
  | .group realm name =>
    have hfind : (store.realms.get realm).groups.find? (·.name = name) = answer :=
      Except.ok.inj hanswer
    exact fun group hgroup => (h realm).1 group (List.mem_of_find?_eq_some (hfind.trans hgroup))
  | .client realm clientId =>
    have hfind : ((store.realms.get realm).clients.find? (·.clientId = clientId)).map
        Memory.Client.id = answer := Except.ok.inj hanswer
    intro id hid
    obtain ⟨client, hclient, rfl⟩ := Option.map_eq_some_iff.mp (hfind.trans hid)
    exact (h realm).2 client (List.mem_of_find?_eq_some hclient)
  | .role .. | .available .. | .assigned .. | .change .. => trivial

/-- A service that serves the realms of a store agrees with the store. -/
theorem agree_of_serves (hserves : s.Serves bearer n stock)
    (htoken : s.credentials = .token bearer)
    (hsendable : bearer.toList.all Request.isSendable = true) :
    Directory.Agree (Stocked stock) PlainCall PlainAnswer (directory n s)
      Memory.Store.directory where
  reply := by
    intro c a store hplain hstocked
    cases hc : c.isChange with
    | false => exact .inl (answer_read htoken hsendable hserves hc hplain hstocked.realms).1
    | true =>
      cases c with
      | change realm goal group scope roles =>
        exact (answer_change htoken hsendable hserves hplain hstocked.realms).1.imp_right
          fun h => ⟨rfl, h⟩
      | _ => cases hc
  good := fun _ hstocked hanswer => plainAnswer_of_plainIds hstocked.plain hanswer
  state := by
    intro c a store hplain hstocked
    cases hc : c.isChange with
    | false =>
      have hrealms : (Memory.Store.directory.answer c store).2.realms = store.realms :=
        Memory.Store.realms_answer hc
      have hread := (answer_read htoken hsendable hserves hc hplain hstocked.realms).2
      exact ⟨hread.trans hrealms.symm, hrealms ▸ hstocked.plain⟩
    | true =>
      cases c with
      | change realm goal group scope roles =>
        exact ⟨(answer_change htoken hsendable hserves hplain hstocked.realms).2,
          plainIds_change (store.counted true) hstocked.plain realm goal group scope roles⟩
      | _ => cases hc

/-! ## Whole requests -/

/-- A request with plain names has the same outcome by a service that serves the realms of a store
as on the store itself: the same report, or the same problem, or a failure of both directories. The
calls are the same, and so are the realms afterwards. -/
theorem fulfil_served {request : Request} (hrequest : request.IsPlain)
    (hserves : s.Serves bearer n stock) (htoken : s.credentials = .token bearer)
    (hsendable : bearer.toList.all Request.isSendable = true) {session : Session σ}
    {store : Memory.Store} (hstock : stock session.network = store.realms)
    (hplain : PlainIds store.realms) :
    let served := request.fulfil.run (directory n s) session
    let stored := request.fulfil.run Memory.Store.directory store
    (∀ report, served.result = .ok report ↔ stored.result = .ok report) ∧
      (∀ problem, (∀ failure, problem ≠ .directory failure) →
        (served.result = .error problem ↔ stored.result = .error problem)) ∧
      ((∃ failure, served.result = .error (.directory failure)) ↔
        ∃ failure, stored.result = .error (.directory failure)) ∧
      served.calls = stored.calls ∧ stock served.state.network = stored.state.realms := by
  intro served stored
  have hagree : served.Agree (Stocked stock) stored :=
    Program.run_agree (agree_of_serves hserves htoken hsendable) (keeps_fulfil hrequest)
      ⟨hstock, hplain⟩
  refine ⟨?_, ?_, ?_, hagree.calls, hagree.state.realms⟩
  · intro report
    rcases hagree.result with hsame | ⟨failure, failure', hserved, hstored⟩
    · rw [hsame]
    · rw [hserved, hstored]
      exact iff_of_false (fun h => nomatch h) (fun h => nomatch h)
  · intro problem hproblem
    rcases hagree.result with hsame | ⟨failure, failure', hserved, hstored⟩
    · rw [hsame]
    · rw [hserved, hstored]
      exact iff_of_false (fun h => hproblem failure (Except.error.inj h).symm)
        (fun h => hproblem failure' (Except.error.inj h).symm)
  · rcases hagree.result with hsame | ⟨failure, failure', hserved, hstored⟩
    · rw [hsame]
    · exact iff_of_true ⟨failure, hserved⟩ ⟨failure', hstored⟩

/-- A role is assigned to a group by a host, as it is on the store with the same realms. -/
theorem fulfil_served_reader :
    let s : Service := ⟨{ secure := false, host := "[::1]".toList }, .token "t"⟩
    let realm : Memory.Realm :=
      (({} : Memory.Realm).addGroup ⟨"g1", "staff"⟩).addRole none ⟨"r1", "reader"⟩
    let realms : Table String Memory.Realm := ⟨[("master", realm)]⟩
    let request : Request :=
      { group := ⟨none, some "staff"⟩, roles := some [⟨none, some "reader"⟩] }
    ∃ served report, request.fulfil.run (directory (s.host "t") s) { network := realms } = served ∧
      served.result = .ok report ∧ report.changed = true ∧
      (served.state.network.get "master").direct "g1" none = ["r1"] := by
  intro s realm realms request
  have hrequest : request.IsPlain := by
    constructor
    · decide
    · intro id hid
      cases hid
    · intro key hkey
      cases hkey
    · intro name hname
      have hreferences : request.references = [.byName "reader"] := rfl
      rw [hreferences, List.mem_singleton] at hname
      cases hname
      decide
  have hplain : PlainIds realms := by
    intro name
    by_cases hname : name = "master"
    · subst hname
      decide
    · have hget : realms.get name = {} := by
        have hfind : realms.get? name = none := if_neg (Ne.symm hname)
        rw [Table.get, hfind]
        rfl
      rw [hget]
      exact ⟨fun _ h => absurd h List.not_mem_nil, fun _ h => absurd h List.not_mem_nil⟩
  have hstored :
      let stored := request.fulfil.run Memory.Store.directory { realms }
      ((stored.result.toOption.map Report.changed) = some true) ∧
        (stored.state.realms.get "master").direct "g1" none = ["r1"] := by
    decide +kernel
  obtain ⟨hreport, -, -, -, hrealms⟩ :=
    @fulfil_served _ s "t" (s.host "t") id request hrequest (serves_host s "t") rfl (by decide)
      { network := realms } { realms } rfl hplain
  dsimp only at hstored hreport hrealms
  -- neither run is looked into again
  generalize request.fulfil.run Memory.Store.directory { realms } = stored at hstored hreport hrealms
  generalize request.fulfil.run (directory (s.host "t") s) { network := realms } = served
    at hreport hrealms ⊢
  obtain ⟨hchanged, hdirect⟩ := hstored
  cases hresult : stored.result with
  | error problem =>
    rw [hresult] at hchanged
    cases hchanged
  | ok report =>
    rw [hresult] at hchanged
    have hstate : served.state.network = stored.state.realms := hrealms
    exact ⟨served, report, rfl, (hreport report).mpr hresult, Option.some.inj hchanged,
      hstate ▸ hdirect⟩

end

end GroupRoles.Service
