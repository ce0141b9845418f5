import GroupRoles.Proofs.Service.Exchange
import GroupRoles.Proofs.Service.Forest
import GroupRoles.Proofs.Service.Token

/-!
# What an answer of the service is taken for

Data is taken from answers that tell of success, and from nothing else: `BodyHolds` says what a body
gives a call, and `replyTo_eq_ok_iff` that this is all that a call can reply, but for a role that is
looked up by its name and not there. Every other answer without success is a failure that names the
request and the status (`replyTo_of_failed`). `answer_of_response` puts this together for a call that
has sent its request in any session.
-/

namespace GroupRoles

namespace Call

/-- The call looks a role up by its name. -/
def IsByName : Call → Prop
  | .role _ (.named ..) => True
  | _ => False

/-- The answer tells that what was looked for is not there. -/
def FindsNothing : (c : Call) → c.Answer → Prop
  | .group .., answer => answer = none
  | .client .., answer => answer = none
  | .role .., answer => answer = none
  | _, _ => False

theorem IsByName.exists_findsNothing {c : Call} (h : c.IsByName) : ∃ answer, c.FindsNothing answer := by
  match c with
  | .role _ (.named ..) => exact ⟨none, rfl⟩

end Call

namespace Service

open Http

variable {σ α β : Type}

/-! ## What a body holds -/

/-- A body holds the answer to a call. A search takes its answer from a list: the first entry that is
exactly what is looked for, or none. -/
def BodyHolds : (c : Call) → List UInt8 → c.Answer → Prop
  | .group _ name, body, answer =>
    ∃ trees, decode (.list (GroupTree.shape maxGroupDepth)) body = .ok trees ∧
      answer = (GroupTree.listedAll trees).find? (·.name = name)
  | .client _ clientId, body, answer =>
    ∃ clients, decode (.list ClientItem.shape) body = .ok clients ∧
      answer = (clients.find? (·.clientId = clientId)).map ClientItem.id
  | .role _ (.named ..), body, answer =>
    ∃ role, decode Role.shape body = .ok role ∧ answer = some role
  | .role _ (.mapped _ _ id), body, answer =>
    ∃ roles, decode (.list Role.shape) body = .ok roles ∧ answer = roles.find? (·.id = id)
  | .available .., body, answer => decode (.list Role.shape) body = .ok answer
  | .assigned .., body, answer => decode (.list Role.shape) body = .ok answer
  | .change .., _, _ => True

/-- A body holds a list to search, but no entry that is exactly what the call looks for. -/
def BodyLacks : Call → List UInt8 → Prop
  | .group _ name, body =>
    ∃ trees, decode (.list (GroupTree.shape maxGroupDepth)) body = .ok trees ∧
      ∀ group ∈ GroupTree.listedAll trees, group.name ≠ name
  | .client _ clientId, body =>
    ∃ clients, decode (.list ClientItem.shape) body = .ok clients ∧
      ∀ client ∈ clients, client.clientId ≠ clientId
  | .role _ (.mapped _ _ id), body =>
    ∃ roles, decode (.list Role.shape) body = .ok roles ∧ ∀ role ∈ roles, role.id ≠ id
  | _, _ => False

/-- A search that finds nothing has looked through all entries of the body. -/
theorem BodyHolds.lacks {c : Call} {body : List UInt8} {answer : c.Answer}
    (h : BodyHolds c body answer) (hnothing : c.FindsNothing answer) : BodyLacks c body := by
  match c with
  | .group _ name =>
    obtain ⟨trees, htrees, rfl⟩ := h
    refine ⟨trees, htrees, fun group hgroup => ?_⟩
    simpa using List.find?_eq_none.mp hnothing group hgroup
  | .client _ clientId =>
    obtain ⟨clients, hclients, rfl⟩ := h
    refine ⟨clients, hclients, fun client hclient => ?_⟩
    simpa using List.find?_eq_none.mp (Option.map_eq_none_iff.mp hnothing) client hclient
  | .role _ (.named ..) =>
    obtain ⟨role, -, rfl⟩ := h
    cases hnothing
  | .role _ (.mapped _ _ id) =>
    obtain ⟨roles, hroles, rfl⟩ := h
    refine ⟨roles, hroles, fun role hrole => ?_⟩
    simpa using List.find?_eq_none.mp hnothing role hrole
  | .available .. | .assigned .. | .change .. => exact hnothing.elim

/-! ## What a call replies -/

theorem map_eq_ok_iff {ε : Type} {x : Except ε α} {f : α → β} {b : β} :
    x.map f = .ok b ↔ ∃ a, x = .ok a ∧ b = f a := by
  cases x with
  | error e => exact iff_of_false (fun h => by cases h) (fun h => by cases h.choose_spec.1)
  | ok a =>
    constructor
    · exact fun h => ⟨a, rfl, (Except.ok.inj h).symm⟩
    · rintro ⟨_, ⟨⟩, rfl⟩
      rfl

theorem map_eq_error_iff {ε : Type} {x : Except ε α} {f : α → β} {e : ε} :
    x.map f = .error e ↔ x = .error e := by
  cases x with
  | error e' => exact ⟨fun h => congrArg Except.error (Except.error.inj h), fun h => h ▸ rfl⟩
  | ok _ => exact iff_of_false (fun h => by cases h) (fun h => by cases h)

variable {response : Response}

/-- A value is read from the body of a response with success only. -/
theorem fetched_eq_ok_iff {shape : Shape α} {url : Url} {a : α} :
    fetched shape url response = .ok a ↔
      response.isSuccess = true ∧ decode shape response.body = .ok a := by
  unfold fetched
  cases response.isSuccess with
  | false => exact iff_of_false (fun h => by cases h) (fun h => by cases h.1)
  | true =>
    rw [if_pos rfl, and_iff_right rfl]
    cases decode shape response.body with
    | error fault => exact iff_of_false (fun h => by cases h) (fun h => by cases h)
    | ok v => exact ⟨fun h => congrArg Except.ok (Except.ok.inj h), fun h => h ▸ rfl⟩

theorem fetched_of_failed (shape : Shape α) (url : Url) (hfailed : response.isSuccess = false) :
    fetched shape url response = .error (refusal .get url response) := by
  rw [fetched, hfailed]
  rfl

theorem map_fetched_eq_ok_iff {shape : Shape α} {url : Url} {f : α → β} {b : β} :
    (fetched shape url response).map f = .ok b ↔
      response.isSuccess = true ∧ ∃ a, decode shape response.body = .ok a ∧ b = f a := by
  simp only [map_eq_ok_iff, fetched_eq_ok_iff, and_assoc, exists_and_left]

/-- What a call replies is in the body of a response with success, but for a role that is looked up
by its name: with status 404 there is none. -/
theorem replyTo_eq_ok_iff (s : Service) (c : Call) (response : Response) (answer : c.Answer) :
    s.replyTo c response = .ok answer ↔
      response.isSuccess = true ∧ BodyHolds c response.body answer ∨
        response.status = 404 ∧ c.IsByName ∧ c.FindsNothing answer := by
  match c with
  | .role realm (.named scope name) =>
    -- the status decides which of the two sides can hold: 404 is none of success
    by_cases hstatus : response.status = 404
    · rw [replyTo, if_pos hstatus]
      constructor
      · exact fun h => .inr ⟨hstatus, trivial, (Except.ok.inj h).symm⟩
      · rintro (⟨hsuccess, -⟩ | ⟨-, -, hnothing⟩)
        · exact absurd hstatus (status_ne_of_isSuccess hsuccess).2
        · exact congrArg Except.ok hnothing.symm
    · rw [replyTo, if_neg hstatus, map_fetched_eq_ok_iff]
      exact (or_iff_left fun h => hstatus h.1).symm
  | .group realm name =>
    rw [replyTo, map_fetched_eq_ok_iff]
    simp only [GroupTree.findFirst?_eq_find?]
    exact (or_iff_left fun h => h.2.1).symm
  | .client .. | .role _ (.mapped ..) =>
    rw [replyTo, map_fetched_eq_ok_iff]
    exact (or_iff_left fun h => h.2.1).symm
  | .available .. | .assigned .. =>
    rw [replyTo, fetched_eq_ok_iff]
    exact (or_iff_left fun h => h.2.1).symm
  | .change .. =>
    rw [replyTo]
    cases response.isSuccess with
    | true => exact iff_of_true rfl (.inl ⟨rfl, trivial⟩)
    | false =>
      refine iff_of_false (fun h => by cases h) ?_
      rintro (⟨⟨⟩, -⟩ | ⟨-, ⟨⟩, -⟩)

/-- An answer without success is a failure that names the request and the status, but for a role
that is looked up by its name and not there. -/
theorem replyTo_of_failed (s : Service) {c : Call} (hfailed : response.isSuccess = false)
    (hfound : ¬ (response.status = 404 ∧ c.IsByName)) :
    s.replyTo c response = .error (refusal (callMethod c) (s.callUrl c) response) := by
  match c with
  | .role realm (.named scope name) =>
    have hstatus : response.status ≠ 404 := fun h => hfound ⟨h, trivial⟩
    rw [replyTo, if_neg hstatus, fetched_of_failed _ _ hfailed]
    rfl
  | .group .. | .client .. | .role _ (.mapped ..) =>
    rw [replyTo, fetched_of_failed _ _ hfailed]
    rfl
  | .available .. | .assigned .. => exact fetched_of_failed _ _ hfailed
  | .change .. =>
    rw [replyTo, hfailed]
    rfl

/-- From a response with success only a body that is not what was asked for is a failure. -/
theorem fetched_eq_error {shape : Shape α} {url : Url} {failure : Failure}
    (hsuccess : response.isSuccess = true) (h : fetched shape url response = .error failure) :
    ∃ fault, failure.cause = .transport fault := by
  rw [fetched, if_pos hsuccess] at h
  cases hdecode : decode shape response.body with
  | error fault =>
    rw [hdecode] at h
    cases h
    exact ⟨fault, rfl⟩
  | ok _ =>
    rw [hdecode] at h
    cases h

theorem cause_of_replyTo {s : Service} {c : Call} {failure : Failure}
    (hsuccess : response.isSuccess = true) (h : s.replyTo c response = .error failure) :
    ∃ fault, failure.cause = .transport fault := by
  match c with
  | .role realm (.named scope name) =>
    rw [replyTo, if_neg (status_ne_of_isSuccess hsuccess).2, map_eq_error_iff] at h
    exact fetched_eq_error hsuccess h
  | .group .. | .client .. | .role _ (.mapped ..) =>
    rw [replyTo, map_eq_error_iff] at h
    exact fetched_eq_error hsuccess h
  | .available .. | .assigned .. => exact fetched_eq_error hsuccess h
  | .change .. =>
    rw [replyTo, if_pos hsuccess] at h
    cases h

/-- A failure is a body that cannot be read from a response with success, or else the refusal that
names the request and the status. -/
theorem replyTo_eq_error {s : Service} {c : Call} {failure : Failure}
    (h : s.replyTo c response = .error failure) :
    (∃ fault, failure.cause = .transport fault) ∨
      (response.isSuccess = false ∧ failure = refusal (callMethod c) (s.callUrl c) response) := by
  cases hsuccess : response.isSuccess with
  | true => exact .inl (cause_of_replyTo hsuccess h)
  | false =>
    -- only a role that is not there would be an answer
    by_cases hfound : response.status = 404 ∧ c.IsByName
    · obtain ⟨answer, hnothing⟩ := hfound.2.exists_findsNothing
      rw [(replyTo_eq_ok_iff s c response answer).mpr (.inr ⟨hfound.1, hfound.2, hnothing⟩)] at h
      cases h
    · rw [replyTo_of_failed s hsuccess hfound] at h
      exact .inr ⟨rfl, (Except.error.inj h).symm⟩

/-! ## What the directory answers -/

theorem isSuccess_eq_true_iff :
    response.isSuccess = true ↔ 200 ≤ response.status ∧ response.status ≤ 299 := by
  rw [Response.isSuccess, Bool.and_eq_true, decide_eq_true_iff, decide_eq_true_iff]
  omega

theorem isSuccess_eq_false_iff :
    response.isSuccess = false ↔ ¬ (200 ≤ response.status ∧ response.status ≤ 299) := by
  rw [← isSuccess_eq_true_iff, Bool.not_eq_true]

/-- The request of a call was sent with the token that the session came to, and there is a response.
Then a value is replied only if the status is from 200 to 299 and the body holds the value, or if a
role that is looked up by its name is not there. Every other response of another status is a failure
with the method and the URL of the request and the status, and status 401 also drops the kept token.
With status 404 the reply can be that there is nothing only for a role that is looked up by its name;
all other searches find nothing only in the list of a response with success. -/
theorem answer_of_response {n : Network σ} {s : Service} {c : Call} {a a' : Session σ}
    {bearer : String} {response : Response} (htoken : (token n s).run.run a = (.ok bearer, a'))
    (hsendable : (s.callRequest bearer c).sendable = true)
    (hanswer : (n.send (s.callRequest bearer c) a'.network).1 = .ok response) :
    let request := s.callRequest bearer c
    let reply := ((directory n s).answer c a).1
    let after := ((directory n s).answer c a).2
    let success := 200 ≤ response.status ∧ response.status ≤ 299
    (∀ answer, reply = .ok answer ↔
      success ∧ BodyHolds c response.body answer ∨
        response.status = 404 ∧ c.IsByName ∧ c.FindsNothing answer) ∧
    (¬ success → ¬ (response.status = 404 ∧ c.IsByName) →
      reply = .error { cause := .service (.status request.method.name request.url.text
        response.status (errorText (Text.Utf8.lossy response.body))) }) ∧
    (response.status = 404 → ((∃ answer, reply = .ok answer ∧ c.FindsNothing answer) ↔
      c.IsByName)) ∧
    (∀ answer, reply = .ok answer → c.FindsNothing answer → ¬ c.IsByName →
      success ∧ BodyLacks c response.body) ∧
    after.kept = if response.status = 401 then none else a'.kept := by
  intro request reply after success
  have hsent := answer_of_token htoken hsendable
  rw [hanswer] at hsent
  have hreply : reply = s.replyTo c response := congrArg Prod.fst hsent
  have hkept : after.kept = keptAfter a'.kept (.ok response) :=
    congrArg (fun result => result.2.kept) hsent
  have hok : ∀ answer, reply = .ok answer ↔
      success ∧ BodyHolds c response.body answer ∨
        response.status = 404 ∧ c.IsByName ∧ c.FindsNothing answer := by
    intro answer
    rw [hreply, replyTo_eq_ok_iff, isSuccess_eq_true_iff]
  refine ⟨hok, fun hfailed hfound => ?_, fun hstatus => ⟨?_, fun hname => ?_⟩,
    fun answer hanswered hnothing hname => ?_, hkept⟩
  · rw [hreply, replyTo_of_failed s (isSuccess_eq_false_iff.mpr hfailed) hfound, refusal]
    simp only [request, callRequest_eq]
  · rintro ⟨answer, hanswered, -⟩
    rcases (hok answer).mp hanswered with ⟨⟨-, hle⟩, -⟩ | ⟨-, hname, -⟩
    · omega
    · exact hname
  · -- with status 404 the other side of `hok` gives the reply that there is no such role
    obtain ⟨answer, hnothing⟩ := hname.exists_findsNothing
    exact ⟨answer, (hok answer).mpr (.inr ⟨hstatus, hname, hnothing⟩), hnothing⟩
  · rcases (hok answer).mp hanswered with ⟨hsuccess, hholds⟩ | ⟨-, hbyName, -⟩
    · exact ⟨hsuccess, hholds.lacks hnothing⟩
    · exact absurd hbyName hname

/-- With status 404 a role is not there, but a search for a group has failed; with status 401 the
search has failed too, and the kept token is given up. A redirection and a failure of the server are
told with their status, also where a role is looked up by its name. -/
theorem answer_of_response_missing :
    let s : Service := ⟨{ secure := false, host := "[::1]".toList }, .token "t"⟩
    let missing : Session (List Response) := { network := [⟨404, []⟩] }
    let refused : Session (List Response) := { network := [⟨401, []⟩], kept := some ⟨"t", 0⟩ }
    let failed (status : Nat) : Session (List Response) := { network := [⟨status, []⟩] }
    let lookup : Call := .role "main" (.named none "reader")
    let search : Call := .group "main" "staff"
    let url := "http://[::1]/admin/realms/main/roles/reader"
    ((directory Network.scripted s).answer lookup missing).1 = .ok none ∧
      (∀ answer, ((directory Network.scripted s).answer search missing).1 ≠ .ok answer) ∧
      (∀ answer, ((directory Network.scripted s).answer search refused).1 ≠ .ok answer) ∧
      ((directory Network.scripted s).answer search refused).2.kept = none ∧
      ∀ status ∈ [302, 500], ((directory Network.scripted s).answer lookup (failed status)).1 =
        .error { cause := .service (.status "GET" url status "<empty body>") } := by
  intro s missing refused failed lookup search url
  have hsendable : ∀ c, (s.callRequest "t" c).sendable = true := by
    intro c
    rw [callRequest_eq]
    have htext : "t".toList.all Http.Request.isSendable = true := by decide
    exact htext
  have htoken : ∀ a, (token Network.scripted s).run.run a = (.ok "t", a) :=
    fun a => run_token_of_given rfl
  obtain ⟨hfound, -, -, -, -⟩ := answer_of_response (htoken missing) (hsendable lookup) rfl
  obtain ⟨hmissing, -, -, -, -⟩ := answer_of_response (htoken missing) (hsendable search) rfl
  obtain ⟨hrefused, -, -, -, hkept⟩ := answer_of_response (htoken refused) (hsendable search) rfl
  refine ⟨(hfound none).mpr (.inr ⟨rfl, trivial, rfl⟩), fun answer hanswered => ?_,
    fun answer hanswered => ?_, hkept, fun status hstatus => ?_⟩
  · rcases (hmissing answer).mp hanswered with ⟨⟨-, hle⟩, -⟩ | ⟨-, hbyName, -⟩
    · exact absurd hle (by decide)
    · exact hbyName
  · rcases (hrefused answer).mp hanswered with ⟨⟨-, hle⟩, -⟩ | ⟨-, hbyName, -⟩
    · exact absurd hle (by decide)
    · exact hbyName
  · obtain ⟨-, hfailed, -, -, -⟩ :=
      answer_of_response (htoken (failed status)) (hsendable lookup) rfl
    have hother : ¬ (200 ≤ status ∧ status ≤ 299) ∧ status ≠ 404 := by
      simp only [List.mem_cons, List.not_mem_nil, or_false] at hstatus
      omega
    have hurl : (s.callRequest "t" lookup).url.text = url := by decide
    have htext : errorText (Text.Utf8.lossy []) = "<empty body>" := by decide
    have hreply := hfailed hother.1 fun h => hother.2 h.1
    rw [hurl, htext] at hreply
    exact hreply

end Service

end GroupRoles
