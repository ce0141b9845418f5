import GroupRoles.Proofs.Service.Alike

/-!
# A call is one request and the reading of its answer

Whatever call is made, it first comes to a token, sends its request with that, and reads the answer.
What it makes of an answer hangs on the answer alone (`Service.replyTo`); of its session it changes
the kept token only, which an answer with status 401 drops (`Service.keptAfter`). `perform_of_token`
puts this together, so that nothing later has to open the calls again.
-/

namespace GroupRoles.Service

open Http

variable {σ ε α β : Type}

/-! ## Reading an answer -/

/-- The method of the request that a call makes. -/
def callMethod : Call → Method
  | .change _ goal _ _ _ => changeMethod goal
  | _ => .get

/-- The body of the request that a call makes. -/
def callBody : Call → Body
  | .change _ _ _ _ roles => rolesBody roles
  | _ => .none

theorem callRequest_eq (s : Service) (bearer : String) (c : Call) :
    s.callRequest bearer c =
      { method := callMethod c, url := s.callUrl c, bearer := some bearer, body := callBody c } := by
  cases c <;> rfl

/-- The failure of a request whose response tells of no success. -/
def refusal (method : Method) (url : Url) (response : Response) : Failure :=
  { cause := .service (.status method.name url.text response.status
      (errorText (Text.Utf8.lossy response.body))) }

/-- The value in the body of a response that tells of success. -/
def fetched (shape : Shape α) (url : Url) (response : Response) : Except Failure α :=
  if response.isSuccess then
    (decode shape response.body).mapError fun fault =>
      ⟨[s!"invalid response body from GET {url.text}"], .transport fault⟩
  else .error (refusal .get url response)

/-- What a call makes of a response. -/
def replyTo (s : Service) : (c : Call) → Response → Reply c
  | .group realm name, response =>
    (fetched (.list (GroupTree.shape maxGroupDepth)) (s.groupSearchUrl realm name) response).map
      (GroupTree.findFirst? name)
  | .client realm clientId, response =>
    (fetched (.list ClientItem.shape) (s.clientSearchUrl realm clientId) response).map
      fun clients => (clients.find? (·.clientId = clientId)).map ClientItem.id
  | .role realm (.named scope name), response =>
    if response.status = 404 then .ok none
    else (fetched Role.shape (s.roleUrl realm scope name) response).map some
  | .role realm (.mapped group scope id), response =>
    (fetched (.list Role.shape) (s.mappingUrl realm group scope .direct) response).map
      (List.find? (·.id = id))
  | .available realm group scope, response =>
    fetched (.list Role.shape) (s.mappingUrl realm group scope .available) response
  | .assigned realm group scope, response =>
    fetched (.list Role.shape) (s.mappingUrl realm group scope .effective) response
  | .change realm goal group scope _, response =>
    if response.isSuccess then .ok ()
    else .error (refusal (changeMethod goal) (s.mappingUrl realm group scope .direct) response)

/-- The reply to a call whose request had this answer from the network. -/
def replyOf (s : Service) (c : Call) : Except TransportFault Response → Reply c
  | .ok response => s.replyTo c response
  | .error fault => .error ⟨[sending (callMethod c) (s.callUrl c)], .transport fault⟩

/-- The token that is kept after an answer from the network. -/
def keptAfter (kept : Option Token) : Except TransportFault Response → Option Token
  | .ok response => if response.status = 401 then none else kept
  | .error _ => kept

/-- A session after a response. -/
def Session.afterResponse (a : Session σ) (response : Response) : Session σ :=
  { a with kept := keptAfter a.kept (.ok response) }

theorem status_ne_of_isSuccess {response : Response} (h : response.isSuccess = true) :
    response.status ≠ 401 ∧ response.status ≠ 404 := by
  unfold Response.isSuccess at h
  rw [Bool.and_eq_true, decide_eq_true_iff, decide_eq_true_iff] at h
  omega

theorem afterResponse_of_ne {response : Response} (h : response.status ≠ 401) (a : Session σ) :
    a.afterResponse response = a := by
  have hkept : keptAfter a.kept (.ok response) = a.kept := if_neg h
  rw [Session.afterResponse, hkept]

theorem run_accept (method : Method) (url : Url) (response : Response) (a : Session σ) :
    (accept method url response).run.run a =
      (if response.isSuccess then .ok () else .error (refusal method url response),
        a.afterResponse response) := by
  unfold accept
  cases hsuccess : response.isSuccess with
  | true =>
    rw [afterResponse_of_ne (status_ne_of_isSuccess hsuccess).1]
    rfl
  | false =>
    by_cases hstatus : response.status = 401
    · have hkept : keptAfter a.kept (.ok response) = none := if_pos hstatus
      simp only [Bool.false_eq_true, if_false, hstatus, if_true, Session.afterResponse, hkept]
      rw [refusal, hstatus]
      rfl
    · rw [afterResponse_of_ne hstatus]
      simp only [Bool.false_eq_true, if_false, hstatus]
      rfl

/-- Reading the body after a check of the status. -/
theorem run_accept_readBody (shape : Shape α) (url : Url) (response : Response) (a : Session σ) :
    (accept .get url response >>= fun _ => readBody shape url response).run.run a =
      (fetched shape url response, a.afterResponse response) := by
  rw [Step.run_bind, run_accept, fetched]
  cases response.isSuccess with
  | false => rfl
  | true =>
    simp only [if_true, readBody]
    cases decode shape response.body <;> rfl

/-- A function on the result of a step. -/
theorem Step.run_map (f : α → β) (x : Step σ ε α) (a : Session σ) :
    (x >>= fun v => pure (f v)).run.run a = ((x.run.run a).1.map f, (x.run.run a).2) := by
  rw [Step.run_bind]
  cases (x.run.run a).1 <;> rfl

/-- A step whose failures are changed. -/
theorem Step.run_adapt {ε' : Type} (f : ε → ε') (x : Step σ ε α) (a : Session σ) :
    (ExceptT.adapt f x).run.run a = ((x.run.run a).1.mapError f, (x.run.run a).2) :=
  rfl

theorem run_transmit (n : Network σ) (r : Http.Request) (a : Session σ) :
    (transmit n r : Step σ ε _).run.run a =
      (.ok (n.send r a.network).1, { a with network := (n.send r a.network).2 }) :=
  rfl

/-! ## From a token to a reply -/

/-- What a call does with the response to its request. -/
def receive (s : Service) : (c : Call) → Response → Step σ Failure c.Answer
  | .group realm name, response => do
    accept .get (s.groupSearchUrl realm name) response
    let trees ←
      readBody (.list (GroupTree.shape maxGroupDepth)) (s.groupSearchUrl realm name) response
    pure (GroupTree.findFirst? name trees)
  | .client realm clientId, response => do
    accept .get (s.clientSearchUrl realm clientId) response
    let clients ← readBody (.list ClientItem.shape) (s.clientSearchUrl realm clientId) response
    pure ((clients.find? (·.clientId = clientId)).map ClientItem.id)
  | .role realm (.named scope name), response =>
    if response.status = 404 then pure none
    else do
      accept .get (s.roleUrl realm scope name) response
      some <$> readBody Role.shape (s.roleUrl realm scope name) response
  | .role realm (.mapped group scope id), response => do
    accept .get (s.mappingUrl realm group scope .direct) response
    let roles ← readBody (.list Role.shape) (s.mappingUrl realm group scope .direct) response
    pure (roles.find? (·.id = id))
  | .available realm group scope, response => do
    accept .get (s.mappingUrl realm group scope .available) response
    readBody (.list Role.shape) (s.mappingUrl realm group scope .available) response
  | .assigned realm group scope, response => do
    accept .get (s.mappingUrl realm group scope .effective) response
    readBody (.list Role.shape) (s.mappingUrl realm group scope .effective) response
  | .change realm goal group scope _, response =>
    accept (changeMethod goal) (s.mappingUrl realm group scope .direct) response

/-- A call sends its request once and goes on with the response. -/
theorem perform_eq (n : Network σ) (s : Service) (c : Call) :
    perform n s c =
      (request n s (callMethod c) (s.callUrl c) (callBody c) >>= fun response =>
        s.receive c response) := by
  match c with
  | .group realm name =>
    simp only [perform, fetch, bind_assoc, callMethod, callUrl, callBody, receive]
  | .client realm clientId =>
    simp only [perform, fetch, bind_assoc, callMethod, callUrl, callBody, receive]
  | .role realm (.mapped group scope id) =>
    simp only [perform, fetch, bind_assoc, callMethod, callUrl, callBody, receive]
  | .role _ (.named ..) => rfl
  | .available .. => rfl
  | .assigned .. => rfl
  | .change .. => rfl

/-- What is made of a response hangs on the response alone. -/
theorem run_receive (s : Service) (c : Call) (response : Response) (a : Session σ) :
    (s.receive c response).run.run a = (s.replyTo c response, a.afterResponse response) := by
  match c with
  | .group realm name => rw [receive, ← bind_assoc, Step.run_map, run_accept_readBody, replyTo]
  | .client realm clientId => rw [receive, ← bind_assoc, Step.run_map, run_accept_readBody, replyTo]
  | .role realm (.mapped group scope id) =>
    rw [receive, ← bind_assoc, Step.run_map, run_accept_readBody, replyTo]
  | .available realm group scope => exact run_accept_readBody _ _ response a
  | .assigned realm group scope => exact run_accept_readBody _ _ response a
  | .change realm goal group scope roles => exact run_accept _ _ response a
  | .role realm (.named scope name) =>
    by_cases hstatus : response.status = 404
    · have hne : response.status ≠ 401 := by omega
      rw [receive, if_pos hstatus, replyTo, if_pos hstatus, afterResponse_of_ne hne]
      rfl
    · rw [receive, if_neg hstatus, replyTo, if_neg hstatus, map_eq_pure_bind, ← bind_assoc,
        Step.run_map, run_accept_readBody]

section

variable {n : Network σ} {s : Service} {a a' : Session σ}

/-- A call that gets no token sends no request. -/
theorem perform_of_refused (c : Call) {fault : ServiceFault}
    (htoken : (token n s).run.run a = (.error fault, a')) :
    (perform n s c).run.run a = (.error { cause := .service fault }, a') := by
  rw [perform_eq, request, Step.run_bind, Step.run_bind, Step.run_adapt, htoken]
  rfl

/-- A call with a token sends its request and replies by the answer; a token that no header can
hold is not sent. -/
theorem perform_of_token (c : Call) {bearer : String}
    (htoken : (token n s).run.run a = (.ok bearer, a')) :
    (perform n s c).run.run a =
      if (s.callRequest bearer c).sendable then
        (s.replyOf c (n.send (s.callRequest bearer c) a'.network).1,
          ⟨(n.send (s.callRequest bearer c) a'.network).2,
            keptAfter a'.kept (n.send (s.callRequest bearer c) a'.network).1⟩)
      else (s.replyOf c (.error .unsendable), a') := by
  have hbearer : (ExceptT.adapt (fun fault => ({ cause := .service fault } : Failure))
      (token n s)).run.run a = (.ok bearer, a') := by
    rw [Step.run_adapt, htoken]
    rfl
  rw [perform_eq, request, Step.run_bind, Step.run_bind, hbearer]
  dsimp only
  rw [← callRequest_eq]
  cases (s.callRequest bearer c).sendable with
  | false => rfl
  | true =>
    simp only [if_true]
    rw [Step.run_bind, run_transmit]
    cases (n.send (s.callRequest bearer c) a'.network).1 with
    | error fault => rfl
    | ok response => exact run_receive s c response _

/-- A call whose request can be sent is one request and the reading of its answer. -/
theorem answer_of_token {c : Call} {bearer : String}
    (htoken : (token n s).run.run a = (.ok bearer, a'))
    (hsendable : (s.callRequest bearer c).sendable = true) :
    (directory n s).answer c a =
      (s.replyOf c (n.send (s.callRequest bearer c) a'.network).1,
        ⟨(n.send (s.callRequest bearer c) a'.network).2,
          keptAfter a'.kept (n.send (s.callRequest bearer c) a'.network).1⟩) := by
  have hperform := perform_of_token c htoken
  rw [if_pos hsendable] at hperform
  exact hperform

variable (n s a) in
/-- The call comes to a token in the session, and its request is sent and gets the response. -/
def Receives (c : Call) (response : Response) : Prop :=
  ∃ bearer a', (token n s).run.run a = (.ok bearer, a') ∧
    (s.callRequest bearer c).sendable = true ∧
    (n.send (s.callRequest bearer c) a'.network).1 = .ok response

theorem Receives.reply_eq {c : Call} {response : Response} (h : Receives n s a c response) :
    ((directory n s).answer c a).1 = s.replyTo c response := by
  obtain ⟨bearer, a', htoken, hsendable, hanswer⟩ := h
  rw [answer_of_token htoken hsendable, hanswer]
  rfl

end

end GroupRoles.Service
