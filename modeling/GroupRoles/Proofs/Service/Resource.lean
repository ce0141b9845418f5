import GroupRoles.Proofs.Service.Exchange
import GroupRoles.Proofs.Url.Segment

/-!
# What a URL stands for

A service finds out from the segments of a path which resource of which realm it is asked for
(`Service.resource?`). Where the names in a call are plain, each becomes one segment, so that the
URL of the call stands for the resource that the call is about and for no other
(`resource?_callUrl`).
-/

namespace GroupRoles.Service

/-- What a service shows of a realm. -/
inductive Resource where
  | groups
  | clients
  | role (scope : Scope) (name : String)
  | mapping (group : String) (scope : Scope) (view : View)
deriving Repr, DecidableEq

/-- The view with these segments. -/
def View.ofSegments? : List String → Option View
  | [] => some direct
  | ["available"] => some available
  | ["composite"] => some effective
  | _ => none

namespace Resource

/-- The segments of a resource behind those of its realm. -/
def segments : Resource → List String
  | groups => ["groups"]
  | clients => ["clients"]
  | role none name => ["roles", name]
  | role (some client) name => ["clients", client, "roles", name]
  | mapping group scope view =>
    ["groups", group, "role-mappings"] ++ scopeSegments scope ++ view.segments

/-- The resource with these segments. -/
def ofSegments? : List String → Option Resource
  | ["groups"] => some groups
  | ["clients"] => some clients
  | ["roles", name] => some (role none name)
  | ["clients", client, "roles", name] => some (role (some client) name)
  | "groups" :: group :: "role-mappings" :: "realm" :: view =>
    (View.ofSegments? view).map (mapping group none)
  | "groups" :: group :: "role-mappings" :: "clients" :: client :: view =>
    (View.ofSegments? view).map (mapping group (some client))
  | _ => none

theorem ofSegments?_segments (resource : Resource) :
    ofSegments? resource.segments = some resource := by
  match resource with
  | groups | clients => rfl
  | role none _ | role (some _) _ => rfl
  | mapping _ none view | mapping _ (some _) view => cases view <;> rfl

end Resource

/-- The realm and the resource that a URL stands for, if it is one of the service. -/
def resource? (s : Service) (url : Url) : Option (String × Resource) :=
  match Url.below? s.base url with
  | some ("admin" :: "realms" :: realm :: segments) =>
    (Resource.ofSegments? segments).map (realm, ·)
  | _ => none

/-- The resource that a call is about. -/
def callResource : Call → Resource
  | .group .. => .groups
  | .client .. => .clients
  | .role _ (.named scope name) => .role scope name
  | .role _ (.mapped group scope _) => .mapping group scope .direct
  | .available _ group scope => .mapping group scope .available
  | .assigned _ group scope => .mapping group scope .effective
  | .change _ _ group scope _ => .mapping group scope .direct

/-- Every segment that a call asks for is plain. -/
structure PlainCall (c : Call) : Prop where
  realm : Url.IsPlain c.realm
  segments : ∀ text ∈ (callResource c).segments, Url.IsPlain text

theorem PlainCall.names {c : Call} (h : PlainCall c) :
    ∀ text ∈ c.realm :: (callResource c).segments, Url.IsPlain text :=
  List.forall_mem_cons.mpr ⟨h.realm, h.segments⟩

/-- The names in front of a realm are plain as well. -/
theorem plain_admin {realm : String} {segments : List String}
    (h : ∀ text ∈ realm :: segments, Url.IsPlain text) :
    ∀ text ∈ "admin" :: "realms" :: realm :: segments, Url.IsPlain text := by
  have hadmin : Url.IsPlain "admin" := by decide
  have hrealms : Url.IsPlain "realms" := by decide
  exact List.forall_mem_cons.mpr ⟨hadmin, List.forall_mem_cons.mpr ⟨hrealms, h⟩⟩

theorem exists_query_of_eq {s : Service} {url : Url} {realm : String} {segments : List String}
    (h : url = s.adminUrl realm segments) :
    ∃ query, url = { s.adminUrl realm segments with query } :=
  ⟨_, h⟩

/-- The URL of a call is that of its resource; only a search has something behind it. -/
theorem callUrl_eq (s : Service) (c : Call) :
    ∃ query, s.callUrl c = { s.adminUrl c.realm (callResource c).segments with query } := by
  match c with
  | .group .. | .client .. => exact ⟨_, rfl⟩
  | .role _ (.named none _) => exact exists_query_of_eq rfl
  | .role _ (.named (some _) _) => exact exists_query_of_eq rfl
  | .role _ (.mapped group scope _) => exact exists_query_of_eq rfl
  | .available .. | .assigned .. | .change .. => exact exists_query_of_eq rfl

/-- Where the names are plain, the URL of a call stands for what the call is about. -/
theorem resource?_callUrl (s : Service) {c : Call} (h : PlainCall c) :
    s.resource? (s.callUrl c) = some (c.realm, callResource c) := by
  obtain ⟨query, hurl⟩ := s.callUrl_eq c
  have hbelow := Url.below?_extend s.base (by decide) (plain_admin h.names) query
  rw [hurl, resource?, adminUrl]
  simp only [List.cons_append, List.nil_append, hbelow, Resource.ofSegments?_segments,
    Option.map_some]

end GroupRoles.Service
