import GroupRoles.Proofs.Service.Resource
import GroupRoles.Proofs.Service.Wire

/-!
# Serving realms

A network serves a stock of realms when it shows each resource as the realms have it and makes
changes as a store makes them (`Service.Serves`). It may write its bodies in any way. A host that
keeps the realms and writes what is asked for is such a network (`serves_host`).
-/

namespace GroupRoles

open Http

/-- The roles that a view shows, in the order of the catalog. -/
def Memory.Realm.viewed (realm : Realm) (group : String) (scope : Scope) :
    Service.View → List Role
  | .direct => realm.select scope (realm.direct group scope).contains
  | .available => realm.available group scope
  | .effective => realm.effective group scope

namespace Service

/-- What a response shows of a resource of a realm. -/
def Shows (realm : Memory.Realm) (response : Response) : Resource → Prop
  | .groups => response.status = 200 ∧ Tells (ListTold Group.Told realm.groups) response.body
  | .clients =>
    response.status = 200 ∧ Tells (ListTold Memory.Client.Told realm.clients) response.body
  | .role scope name =>
    match realm.role? (.named scope name) with
    | some role => response.status = 200 ∧ Tells role.Told response.body
    | none => response.status = 404
  | .mapping group scope view =>
    response.status = 200 ∧ Tells (ListTold Role.Told (realm.viewed group scope view)) response.body

/-- The status that tells how a change went. -/
def changeStatus : Except Failure Unit → Nat
  | .ok _ => 204
  | .error _ => 400

variable {σ : Type}

/-- A network that serves the realms in stock to requests with a token: reading shows what there is,
and the roles in the body of a change are mapped or unmapped as a store does it. -/
structure Serves (s : Service) (bearer : String) (n : Network σ)
    (stock : σ → Table String Memory.Realm) : Prop where
  read : ∀ {r : Http.Request} {a : σ} {realm : String} {resource : Resource},
    r.bearer = some bearer → r.method = .get → s.resource? r.url = some (realm, resource) →
    ∃ response, (n.send r a).1 = .ok response ∧
      Shows ((stock a).get realm) response resource ∧ stock (n.send r a).2 = stock a
  change : ∀ {r : Http.Request} {a : σ} {realm group : String} {scope : Scope} {goal : Goal}
    {roles : List Role}, r.bearer = some bearer → r.method = changeMethod goal →
    s.resource? r.url = some (realm, .mapping group scope .direct) →
    (Shape.list Role.shape).ofJsonText r.body.text = .ok roles →
    let changed := ({ realms := stock a } : Memory.Store).change realm goal group scope roles
    ∃ response, (n.send r a).1 = .ok response ∧ response.status = changeStatus changed.1 ∧
      stock (n.send r a).2 = changed.2.realms

/-! ## A host -/

/-- The response with a JSON value. -/
def jsonResponse (v : Json) : Response :=
  ⟨200, Text.Utf8.encode v.compactText⟩

/-- The response that shows a resource of a realm. -/
def shown (realm : Memory.Realm) : Resource → Response
  | .groups => jsonResponse (.list (realm.groups.map Group.shape.write))
  | .clients => jsonResponse (.list (realm.clients.map fun client =>
      ClientItem.shape.write ⟨client.id, client.clientId⟩))
  | .role scope name =>
    match realm.role? (.named scope name) with
    | some role => jsonResponse (Role.shape.write role)
    | none => ⟨404, []⟩
  | .mapping group scope view =>
    jsonResponse (.list ((realm.viewed group scope view).map Role.shape.write))

theorem tells_jsonResponse {told : Json.Draft → Prop} {v : Json} (h : told v.draft) :
    (jsonResponse v).status = 200 ∧ Tells told (jsonResponse v).body :=
  ⟨rfl, tells_compactText h⟩

theorem shows_shown (realm : Memory.Realm) (resource : Resource) :
    Shows realm (shown realm resource) resource := by
  cases resource with
  | groups => exact tells_jsonResponse (listTold_map Group.told_write _)
  | clients => exact tells_jsonResponse (listTold_map Memory.Client.told_write _)
  | mapping group scope view => exact tells_jsonResponse (listTold_map Role.told_write _)
  | role scope name =>
    unfold Shows shown
    dsimp only
    cases realm.role? (.named scope name) with
    | none => rfl
    | some role => exact tells_jsonResponse role.told_write

/-- What a method makes of the roles in a body. -/
def goalOf? : Method → Option Goal
  | .get => none
  | .post => some .present
  | .delete => some .absent

/-- A network with a host that keeps realms and lets in requests with a token. -/
def host (s : Service) (bearer : String) : Network (Table String Memory.Realm) where
  now realms := (0, realms)
  send r realms :=
    if r.bearer = some bearer then
      match s.resource? r.url, goalOf? r.method with
      | some (realm, resource), none => (.ok (shown (realms.get realm) resource), realms)
      | some (realm, .mapping group scope .direct), some goal =>
        match (Shape.list Role.shape).ofJsonText r.body.text with
        | .ok roles =>
          let (result, store) := ({ realms } : Memory.Store).change realm goal group scope roles
          (.ok ⟨changeStatus result, []⟩, store.realms)
        | .error _ => (.ok ⟨400, []⟩, realms)
      | _, _ => (.ok ⟨404, []⟩, realms)
    else (.ok ⟨401, []⟩, realms)

/-- A host serves the realms that it keeps. -/
theorem serves_host (s : Service) (bearer : String) : s.Serves bearer (s.host bearer) id where
  read := by
    intro r realms realm resource hbearer hmethod hresource
    have hsend : (s.host bearer).send r realms =
        (.ok (shown (realms.get realm) resource), realms) := by
      simp only [host, hbearer, hmethod, hresource, goalOf?, if_true]
    rw [hsend]
    exact ⟨_, rfl, shows_shown _ resource, rfl⟩
  change := by
    intro r realms realm group scope goal roles hbearer hmethod hresource hroles changed
    have hgoal : goalOf? r.method = some goal := by
      rw [hmethod]
      cases goal <;> rfl
    have hsend : (s.host bearer).send r realms =
        (.ok ⟨changeStatus changed.1, []⟩, changed.2.realms) := by
      simp only [host, hbearer, hgoal, hresource, hroles, if_true]
      rfl
    rw [hsend]
    exact ⟨_, rfl, rfl, rfl⟩

end Service

end GroupRoles
