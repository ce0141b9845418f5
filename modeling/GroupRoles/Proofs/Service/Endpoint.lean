import GroupRoles.Proofs.Service.Plain
import GroupRoles.Proofs.Service.Token
import GroupRoles.Proofs.Url.Text

/-!
# The URLs of the service

Every resource of a realm has a URL of its own below the base URL, as long as the names that lead to
it are plain: its segments are those of the base and one for each name, and percent decoding gives
the names back (`adminUrl_reads_iff`). Other names do not keep their place, so that a role can have
the URL of another one (`exists_role_without_url`).

On plain names two calls send the same method to the same URL only if they are the same operation on
the same (`sent_address_iff`). That the URL has the segments of a resource tells the realm and the
resource; the two searches are told apart by their queries.
-/

namespace GroupRoles

/-- A call without what its method and its URL leave open: which of the roles that are mapped to a
group is looked for, and which roles are changed, which stands in the body. -/
def Call.address : Call → Call
  | .role realm (.mapped target scope _) => .role realm (.mapped target scope "")
  | .change realm goal target scope _ => .change realm goal target scope []
  | c => c

namespace Service

open Http

/-! ## Names and segments -/

/-- The URL of a resource has, behind the path of the base URL without an empty end, one segment for
each name, and they are read back in order, exactly if the names are plain. -/
theorem adminUrl_reads_iff (s : Service) (realm : String) (segments : List String) :
    (∃ added, (s.adminUrl realm segments).path = Url.stem (Url.dropEmptyEnd s.base.path) ++ added ∧
        added.map Url.decode? = ("admin" :: "realms" :: realm :: segments).map some) ↔
      ∀ text ∈ realm :: segments, Url.IsPlain text := by
  have hadmin : ∀ text ∈ ["admin", "realms"], Url.IsPlain text := by decide
  have hstart : (["admin", "realms"] : List String).foldl Url.push (Url.dropEmptyEnd s.base.path) =
      Url.stem (Url.dropEmptyEnd s.base.path) ++ ["admin", "realms"].map Url.segment :=
    Url.path_extend s.base (by decide) hadmin
  have hpath : (s.adminUrl realm segments).path =
      (realm :: segments).foldl Url.push
        (Url.stem (Url.dropEmptyEnd s.base.path) ++ ["admin", "realms"].map Url.segment) := by
    rw [← hstart, ← List.foldl_append]
    rfl
  have hlong : 1 < (Url.stem (Url.dropEmptyEnd s.base.path) ++
      ["admin", "realms"].map Url.segment).length := by
    rw [List.length_append, List.length_map, List.length_cons, List.length_singleton]
    omega
  have hheld : (["admin", "realms"].map Url.segment).map Url.decode? =
      ["admin", "realms"].map some := by
    rw [List.map_map, List.map_inj_left]
    exact fun text _ => Url.decode?_segment text
  -- the first two names become the segments that the others are put behind
  rw [← Url.foldl_push_reads_iff hlong, ← hpath, hheld]
  rfl

/-- It is not so that every role has a URL of its own: a tab in a name is left out, so that the URL
is that of the role without the tab. -/
theorem exists_role_without_url :
    ¬ ∀ (s : Service) (realm : String) (segments : List String),
      ∃ added,
        (s.adminUrl realm segments).path = Url.stem (Url.dropEmptyEnd s.base.path) ++ added ∧
        added.map Url.decode? = ("admin" :: "realms" :: realm :: segments).map some := by
  intro h
  obtain ⟨added, hpath, hread⟩ :=
    h ⟨{ secure := false, host := "[::1]".toList }, .token "t"⟩ "master" ["roles", "a\tb"]
  have hadded :
      added = (["admin", "realms", "master", "roles", "ab"] : List String).map String.toList :=
    hpath.symm
  rw [hadded] at hread
  -- the last segment reads as another name
  have hname : Url.decode? "ab".toList = some "a\tb" :=
    Option.some.inj (congrArg List.getLast? hread)
  have hother : Url.decode? "ab".toList = some "ab" := Url.decode?_segment "ab"
  rw [hother, Option.some.injEq] at hname
  exact absurd hname (by decide)

/-! ## The address of a call -/

namespace Resource

/-- What is asked of a resource with a method, where a search is for the given text. -/
def ask (method : Method) (realm searched : String) : Resource → Call
  | groups => .group realm searched
  | clients => .client realm searched
  | role scope name => .role realm (.named scope name)
  | mapping group scope .direct =>
    match method with
    | .get => .role realm (.mapped group scope "")
    | .post => .change realm .present group scope []
    | .delete => .change realm .absent group scope []
  | mapping group scope .available => .available realm group scope
  | mapping group scope .effective => .assigned realm group scope

/-- The URL of what is asked of a resource. -/
def url (s : Service) (realm searched : String) : Resource → Url
  | groups => s.groupSearchUrl realm searched
  | clients => s.clientSearchUrl realm searched
  | resource => s.adminUrl realm resource.segments

/-- What is asked hangs on the searched text only where the query of the URL tells it. -/
theorem ask_eq_of_query_eq (s : Service) {method : Method} {realm searched searched' : String}
    {resource : Resource}
    (h : (resource.url s realm searched).query = (resource.url s realm searched').query) :
    resource.ask method realm searched = resource.ask method realm searched' := by
  cases resource with
  | groups => exact congrArg (Call.group realm) (Url.addPair_inj h)
  | clients => exact congrArg (Call.client realm) (Url.addPair_inj h)
  | role scope name => rfl
  | mapping group scope view => cases view <;> rfl

end Resource

/-- The text that a call searches for. -/
def searched : Call → String
  | .group _ name => name
  | .client _ clientId => clientId
  | _ => ""

/-- The address of a call is made of its method, its realm, its searched text and its resource. -/
theorem address_eq (c : Call) :
    c.address = (callResource c).ask (callMethod c) c.realm (searched c) := by
  match c with
  | .role _ (.named ..) | .role _ (.mapped ..) => rfl
  | .change _ .present .. | .change _ .absent .. => rfl
  | .group .. | .client .. | .available .. | .assigned .. => rfl

theorem callUrl_eq_url (s : Service) (c : Call) :
    s.callUrl c = (callResource c).url s c.realm (searched c) := by
  match c with
  | .role _ (.named none _) | .role _ (.named (some _) _) | .role _ (.mapped ..) => rfl
  | .group .. | .client .. | .available .. | .assigned .. | .change .. => rfl

theorem callMethod_address (c : Call) : callMethod c.address = callMethod c := by
  match c with
  | .role _ (.named ..) | .role _ (.mapped ..) => rfl
  | .group .. | .client .. | .available .. | .assigned .. | .change .. => rfl

theorem callUrl_address (s : Service) (c : Call) : s.callUrl c.address = s.callUrl c := by
  match c with
  | .role _ (.named ..) | .role _ (.mapped ..) => rfl
  | .group .. | .client .. | .available .. | .assigned .. | .change .. => rfl

/-- The text of a URL tells the realm and the resource that it is made from, and the query. -/
theorem adminUrl_text_inj (s : Service) {realm realm' : String} {resource resource' : Resource}
    (h : ∀ text ∈ realm :: resource.segments, Url.IsPlain text)
    (h' : ∀ text ∈ realm' :: resource'.segments, Url.IsPlain text) {query query' : Option (List Char)}
    (htext : (Url.sent { s.adminUrl realm resource.segments with query := query }).text =
      (Url.sent { s.adminUrl realm' resource'.segments with query := query' }).text) :
    realm = realm' ∧ resource = resource' ∧ query = query' := by
  obtain ⟨hnames, hquery⟩ :=
    Url.text_extend_inj (by decide) (by decide) (plain_admin h) (plain_admin h') htext
  obtain ⟨hrealm, hsegments⟩ : realm = realm' ∧ resource.segments = resource'.segments := by
    simpa using hnames
  have hresource := Resource.ofSegments?_segments resource
  rw [hsegments, Resource.ofSegments?_segments, Option.some.injEq] at hresource
  exact ⟨hrealm, hresource.symm, hquery⟩

/-- Calls with plain names have the same method and the same URL exactly if they have the same
address. -/
theorem callUrl_text_eq_iff (s : Service) {c c' : Call} (h : PlainCall c) (h' : PlainCall c') :
    (callMethod c = callMethod c' ∧ (s.callUrl c).sent.text = (s.callUrl c').sent.text) ↔
      c.address = c'.address := by
  constructor
  · rintro ⟨hmethod, htext⟩
    obtain ⟨query, hurl⟩ := s.callUrl_eq c
    obtain ⟨query', hurl'⟩ := s.callUrl_eq c'
    have hquery : (s.callUrl c).query = query := by rw [hurl]
    have hquery' : (s.callUrl c').query = query' := by rw [hurl']
    rw [hurl, hurl'] at htext
    obtain ⟨hrealm, hresource, hsame⟩ := s.adminUrl_text_inj h.names h'.names htext
    rw [address_eq, address_eq, hmethod, hrealm, hresource]
    refine Resource.ask_eq_of_query_eq s ?_
    rw [← callUrl_eq_url s c', ← hresource, ← hrealm, ← callUrl_eq_url s c, hquery, hquery', hsame]
  · intro haddress
    rw [← callMethod_address c, ← callUrl_address s c, haddress, callMethod_address,
      callUrl_address]
    exact ⟨rfl, rfl⟩

/-- The URL of a group's mappings tells the realm, the group, the scope and the view. -/
theorem mappingUrl_text_inj (s : Service) {realm realm' group group' : String}
    {scope scope' : Scope} {view view' : View}
    (h : ∀ text ∈ realm :: (Resource.mapping group scope view).segments, Url.IsPlain text)
    (h' : ∀ text ∈ realm' :: (Resource.mapping group' scope' view').segments, Url.IsPlain text)
    (htext : (s.mappingUrl realm group scope view).sent.text =
      (s.mappingUrl realm' group' scope' view').sent.text) :
    realm = realm' ∧ group = group' ∧ scope = scope' ∧ view = view' := by
  have hurl : ∀ realm group scope view, s.mappingUrl realm group scope view =
      s.adminUrl realm (Resource.mapping group scope view).segments :=
    fun _ _ _ _ => rfl
  obtain ⟨query, hquery⟩ := exists_query_of_eq (hurl realm group scope view)
  obtain ⟨query', hquery'⟩ := exists_query_of_eq (hurl realm' group' scope' view')
  rw [hquery, hquery'] at htext
  obtain ⟨hrealm, hresource, -⟩ := s.adminUrl_text_inj h h' htext
  rw [Resource.mapping.injEq] at hresource
  exact ⟨hrealm, hresource⟩

/-! ## What is sent -/

variable {σ τ : Type}

/-- The requests that a call sends, in order. -/
def sent (n : Network σ) (s : Service) (c : Call) (a : Session σ) : List Http.Request :=
  ((directory n.recorded s).answer c ⟨(a.network, []), a.kept⟩).2.network.2

/-- A request that shows a token is the call's own. -/
theorem eq_callRequest_of_mem_sent {n : Network σ} {s : Service} {c : Call} {a : Session σ}
    {r : Http.Request} (hr : r ∈ sent n s c a) (hbearer : r.bearer.isSome) :
    ∃ bearer, r = s.callRequest bearer c := by
  have hstart : Session.Alike (Recorded (s.MaySend c)) a ⟨(a.network, []), a.kept⟩ :=
    ⟨⟨rfl, fun r hr => absurd hr List.not_mem_nil⟩, rfl⟩
  have hafter := (directory_alike (n.alike_recorded (s.MaySend c)) s c a _ (fun _ h => h) hstart).2
  cases hafter.network.2 r hr with
  | grant hs => cases hbearer
  | call bearer => exact ⟨bearer, rfl⟩

/-- With a given token a call sends one request, as long as a header can hold the token. -/
theorem sent_of_given {s : Service} {text : String} (hs : s.credentials = .token text)
    (n : Network σ) (c : Call) (a : Session σ) :
    sent n s c a =
      if (s.callRequest text c).sendable then [s.callRequest text c] else [] := by
  have hperform := perform_of_token (n := n.recorded) c
    (run_token_of_given (a := ⟨(a.network, []), a.kept⟩) hs)
  change ((perform n.recorded s c).run.run ⟨(a.network, []), a.kept⟩).2.network.2 = _
  rw [hperform]
  split <;> rfl

/-- Two calls with plain names send the same method to the same URL exactly if they have the same
address; and the URLs of mappings differ wherever the realm, the group, the scope or the view do. -/
theorem sent_address_iff (s : Service) :
    (∀ c c', PlainCall c → PlainCall c' →
      ∀ (n : Network σ) (a : Session σ) (n' : Network τ) (a' : Session τ),
        ∀ r ∈ sent n s c a, ∀ r' ∈ sent n' s c' a', r.bearer.isSome → r'.bearer.isSome →
          ((r.method = r'.method ∧ r.url.sent.text = r'.url.sent.text) ↔ c.address = c'.address)) ∧
    ∀ realm group scope view realm' group' scope' view',
      (∀ text ∈ realm :: (Resource.mapping group scope view).segments, Url.IsPlain text) →
      (∀ text ∈ realm' :: (Resource.mapping group' scope' view').segments, Url.IsPlain text) →
        ((s.mappingUrl realm group scope view).sent.text =
            (s.mappingUrl realm' group' scope' view').sent.text ↔
          realm = realm' ∧ group = group' ∧ scope = scope' ∧ view = view') := by
  refine ⟨fun c c' h h' n a n' a' r hr r' hr' hbearer hbearer' => ?_,
    fun realm group scope view realm' group' scope' view' h h' =>
      ⟨s.mappingUrl_text_inj h h', ?_⟩⟩
  · obtain ⟨bearer, rfl⟩ := eq_callRequest_of_mem_sent hr hbearer
    obtain ⟨bearer', rfl⟩ := eq_callRequest_of_mem_sent hr' hbearer'
    rw [callRequest_eq, callRequest_eq]
    exact s.callUrl_text_eq_iff h h'
  · rintro ⟨rfl, rfl, rfl, rfl⟩
    rfl

/-- Names that spell the words of other URLs do not lead there, and which of the mapped roles is
looked for does not matter. -/
theorem sent_address_words :
    let s : Service := ⟨{ secure := false, host := "[::1]".toList }, .token "t"⟩
    let lookup (scope : Scope) (id : String) : Call := .role "realm" (.mapped "clients" scope id)
    let requests (c : Call) : List Http.Request := sent Network.unreachable s c { network := () }
    (∃ r ∈ requests (lookup (some "available") "a"),
      ∃ r' ∈ requests (.available "realm" "clients" none),
        r.method = r'.method ∧ r.url.sent.text ≠ r'.url.sent.text) ∧
    (∃ r ∈ requests (lookup none "a"), ∃ r' ∈ requests (lookup none "b"),
      r.method = r'.method ∧ r.url.sent.text = r'.url.sent.text) ∧
    (s.mappingUrl "realm" "clients" (some "realm/available") .direct).sent.text ≠
      (s.mappingUrl "realm" "clients" (some "realm") .available).sent.text := by
  intro s lookup requests
  obtain ⟨hcalls, hmappings⟩ := sent_address_iff (σ := Unit) (τ := Unit) s
  have hrequests : ∀ c, s.callRequest "t" c ∈ requests c := by
    intro c
    have htoken : "t".toList.all Http.Request.isSendable = true := by decide
    have hsendable : (s.callRequest "t" c).sendable = true := by
      rw [callRequest_eq]
      exact htoken
    change s.callRequest "t" c ∈ sent Network.unreachable s c { network := () }
    rw [sent_of_given rfl, if_pos hsendable]
    exact List.mem_singleton_self _
  have hplain : ∀ {scope : Scope} (view : View), (∀ id ∈ scope, Url.IsPlain id) →
      ∀ text ∈ (Resource.mapping "clients" scope view).segments, Url.IsPlain text :=
    fun view hscope => plain_mapping (by decide) hscope view
  have hrealm : Url.IsPlain "realm" := by decide
  have hmapped : ∀ {scope : Scope} (id : String), (∀ id ∈ scope, Url.IsPlain id) →
      PlainCall (lookup scope id) :=
    fun id hscope => ⟨hrealm, hplain .direct hscope⟩
  have havailable : PlainCall (.available "realm" "clients" none) :=
    ⟨hrealm, hplain .available (by decide)⟩
  have hsame : ∀ c c', PlainCall c → PlainCall c' →
      (((s.callRequest "t" c).method = (s.callRequest "t" c').method ∧
        (s.callRequest "t" c).url.sent.text = (s.callRequest "t" c').url.sent.text) ↔
          c.address = c'.address) := by
    intro c c' h h'
    have hshows : ∀ c, (s.callRequest "t" c).bearer.isSome = true := fun c => by
      rw [callRequest_eq]
      rfl
    exact hcalls c c' h h' Network.unreachable { network := () } Network.unreachable
      { network := () } _ (hrequests c) _ (hrequests c') (hshows c) (hshows c')
  refine ⟨⟨_, hrequests (lookup (some "available") "a"), _,
      hrequests (.available "realm" "clients" none), rfl, fun htext => ?_⟩,
    ⟨_, hrequests (lookup none "a"), _, hrequests (lookup none "b"), ?_⟩, fun htext => ?_⟩
  · have haddress := (hsame (lookup (some "available") "a") (.available "realm" "clients" none)
      (hmapped "a" (by decide)) havailable).mp ⟨rfl, htext⟩
    cases haddress
  · exact (hsame (lookup none "a") (lookup none "b") (hmapped "a" (by decide))
      (hmapped "b" (by decide))).mpr rfl
  · have hparts := (hmappings "realm" "clients" (some "realm/available") .direct "realm" "clients"
      (some "realm") .available
      (List.forall_mem_cons.mpr ⟨hrealm, hplain .direct (by decide)⟩)
      (List.forall_mem_cons.mpr ⟨hrealm, hplain .available (by decide)⟩)).mp htext
    cases hparts.2.2.2

end Service

end GroupRoles
