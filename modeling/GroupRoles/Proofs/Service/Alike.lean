import GroupRoles.Proofs.Directory.Alike
import GroupRoles.Service.Directory

/-!
# Networks that carry alike

What a session does hangs on the clock and on the replies of the network only. Where two networks
agree on these, for the requests that a call may lead to, the call goes the same way on both
(`perform_alike`). A network that keeps a list of its requests (`Network.recorded`) agrees with the
network that it is made from, so that the list tells what is sent.
-/

namespace GroupRoles

namespace Http

variable {σ τ : Type}

/-- In related states both networks have the same time, and reply the same to an allowed request. -/
structure Network.Alike (R : σ → τ → Prop) (allowed : Request → Prop) (n : Network σ)
    (m : Network τ) : Prop where
  now : ∀ {s t}, R s t → (n.now s).1 = (m.now t).1 ∧ R (n.now s).2 (m.now t).2
  send : ∀ {r s t}, allowed r → R s t →
    (n.send r s).1 = (m.send r t).1 ∧ R (n.send r s).2 (m.send r t).2

/-- A network that also keeps a list of the requests that it was given. -/
def Network.recorded (n : Network σ) : Network (σ × List Request) where
  now s :=
    let (now, network) := n.now s.1
    (now, (network, s.2))
  send r s :=
    let (reply, network) := n.send r s.1
    (reply, (network, s.2 ++ [r]))

/-- The state of a network and the same state with a list of allowed requests. -/
def Recorded (allowed : Request → Prop) (s : σ) (t : σ × List Request) : Prop :=
  t.1 = s ∧ ∀ r ∈ t.2, allowed r

/-- Keeping the list changes nothing, and the list has the allowed requests that were sent. -/
theorem Network.alike_recorded (n : Network σ) (allowed : Request → Prop) :
    Network.Alike (Recorded allowed) allowed n n.recorded where
  now := by
    rintro _ ⟨s, list⟩ ⟨rfl, hlist⟩
    exact ⟨rfl, rfl, hlist⟩
  send := by
    rintro r _ ⟨s, list⟩ hr ⟨rfl, hlist⟩
    refine ⟨rfl, rfl, fun r' hr' => ?_⟩
    rcases List.mem_append.mp hr' with hr' | hr'
    · exact hlist r' hr'
    · exact List.mem_singleton.mp hr' ▸ hr

/-- A network that gives responses one after the other, whatever it is asked. -/
def Network.scripted : Network (List Response) where
  now s := (0, s)
  send r s :=
    match s with
    | [] => (throw (.unreachable r.url.shown.text), [])
    | response :: rest => (.ok response, rest)

end Http

namespace Service

open Http

variable {σ τ ε α β : Type} {R : σ → τ → Prop}

/-! ## Steps on two networks -/

/-- Sessions that keep the same token, on networks in related states. -/
structure Session.Alike (R : σ → τ → Prop) (a : Session σ) (b : Session τ) : Prop where
  network : R a.network b.network
  kept : a.kept = b.kept

/-- Steps that have the same result in sessions that are alike, and leave them alike. -/
def Step.Alike (R : σ → τ → Prop) (x : Step σ ε α) (y : Step τ ε α) : Prop :=
  ∀ a b, Session.Alike R a b →
    (x.run.run a).1 = (y.run.run b).1 ∧ Session.Alike R (x.run.run a).2 (y.run.run b).2

namespace Step

/-- Two steps in a row: the second goes on from the result of the first and from its session. -/
theorem run_bind (x : Step σ ε α) (f : α → Step σ ε β) (a : Session σ) :
    (x >>= f).run.run a =
      match (x.run.run a).1 with
      | .ok v => (f v).run.run (x.run.run a).2
      | .error e => (.error e, (x.run.run a).2) := by
  change ExceptT.bindCont f (x.run.run a).1 (x.run.run a).2 = _
  cases (x.run.run a).1 <;> rfl

theorem Alike.pure (v : α) : Alike R (Pure.pure v : Step σ ε α) (Pure.pure v) :=
  fun _ _ h => ⟨rfl, h⟩

theorem Alike.throw (e : ε) : Alike R (MonadExcept.throw e : Step σ ε α) (MonadExcept.throw e) :=
  fun _ _ h => ⟨rfl, h⟩

/-- What was already decided is the same on both networks. -/
theorem Alike.ofExcept (r : Except ε α) :
    Alike R (liftM r : Step σ ε α) (liftM r : Step τ ε α) :=
  fun _ _ h => ⟨rfl, h⟩

theorem Alike.bind {x : Step σ ε α} {y : Step τ ε α} {f : α → Step σ ε β} {g : α → Step τ ε β}
    (h : Alike R x y) (hf : ∀ v, Alike R (f v) (g v)) : Alike R (x >>= f) (y >>= g) := by
  intro a b hab
  obtain ⟨hresult, hnext⟩ := h a b hab
  rw [run_bind, run_bind, ← hresult]
  cases (x.run.run a).1 with
  | error e => exact ⟨rfl, hnext⟩
  | ok v => exact hf v _ _ hnext

theorem Alike.map {x : Step σ ε α} {y : Step τ ε α} (f : α → β) (h : Alike R x y) :
    Alike R (f <$> x) (f <$> y) :=
  h.bind fun v => .pure (f v)

/-- A step that looks at its session first. -/
theorem Alike.get_bind {f : Session σ → Step σ ε β} {g : Session τ → Step τ ε β}
    (h : ∀ a b, Session.Alike R a b → Alike R (f a) (g b)) :
    Alike R (get >>= f) (get >>= g) :=
  fun a b hab => h a b hab a b hab

theorem Alike.adapt {ε' : Type} (f : ε → ε') {x : Step σ ε α} {y : Step τ ε α}
    (h : Alike R x y) : Alike R (ExceptT.adapt f x) (ExceptT.adapt f y) := by
  intro a b hab
  obtain ⟨hresult, hnext⟩ := h a b hab
  exact ⟨congrArg (Except.mapError f) hresult, hnext⟩

end Step

/-! ## What a call sends -/

/-- The URL of the request that a call makes. -/
def callUrl (s : Service) : Call → Url
  | .group realm name => s.groupSearchUrl realm name
  | .client realm clientId => s.clientSearchUrl realm clientId
  | .role realm (.named scope name) => s.roleUrl realm scope name
  | .role realm (.mapped group scope _) => s.mappingUrl realm group scope .direct
  | .available realm group scope => s.mappingUrl realm group scope .available
  | .assigned realm group scope => s.mappingUrl realm group scope .effective
  | .change realm _ group scope _ => s.mappingUrl realm group scope .direct

/-- The request that a call makes with a token. -/
def callRequest (s : Service) (bearer : String) (c : Call) : Http.Request :=
  match c with
  | .change _ goal _ _ roles =>
    { method := changeMethod goal, url := s.callUrl c, bearer := some bearer
      body := rolesBody roles }
  | c => { method := .get, url := s.callUrl c, bearer := some bearer }

/-- A call that changes nothing reads from its URL. -/
theorem callRequest_of_not_isChange (s : Service) (bearer : String) {c : Call}
    (hc : c.isChange = false) :
    s.callRequest bearer c = { method := .get, url := s.callUrl c, bearer := some bearer } := by
  cases c with
  | change realm goal group scope roles => cases hc
  | _ => rfl

/-- The requests that a call may lead to: its own, and before it one for a token. -/
inductive MaySend (s : Service) (c : Call) : Http.Request → Prop where
  | grant {grant : PasswordGrant} (h : s.credentials = .password grant) :
    MaySend s c (s.grantRequest grant)
  | call (bearer : String) : MaySend s c (s.callRequest bearer c)

/-! ## Calls on two networks -/

theorem forget_alike : Step.Alike R (forget : Step σ ε Unit) forget :=
  fun _ _ hab => ⟨rfl, hab.network, rfl⟩

theorem accept_alike (method : Method) (url : Url) (response : Response) :
    Step.Alike R (accept method url response) (accept method url response) := by
  unfold accept
  split
  · exact .pure _
  · dsimp only
    split
    · exact forget_alike.bind fun _ => .throw _
    · exact .throw _

theorem readBody_alike (shape : Shape α) (url : Url) (response : Response) :
    Step.Alike R (readBody shape url response) (readBody shape url response) := by
  unfold readBody
  split
  · exact .pure _
  · exact .throw _

section

variable {allowed : Http.Request → Prop} {n : Network σ} {m : Network τ} {s : Service}
  (h : Network.Alike R allowed n m)
include h

theorem readClock_alike : Step.Alike R (readClock n : Step σ ε Nat) (readClock m) := by
  intro a b hab
  obtain ⟨hnow, hnetwork⟩ := h.now hab.network
  exact ⟨congrArg Except.ok hnow, hnetwork, hab.kept⟩

theorem transmit_alike {r : Http.Request} (hr : allowed r) :
    Step.Alike R (transmit n r : Step σ ε _) (transmit m r) := by
  intro a b hab
  obtain ⟨hreply, hnetwork⟩ := h.send hr hab.network
  exact ⟨congrArg Except.ok hreply, hnetwork, hab.kept⟩

theorem look_alike : Step.Alike R (look n : Step σ ε (Option String)) (look m) := by
  unfold look
  -- which way a step goes hangs on the token that both sessions keep
  refine Step.Alike.get_bind fun a b hab => ?_
  rw [hab.kept]
  cases b.kept with
  | none => exact .pure _
  | some kept => exact (readClock_alike h).bind fun now => .pure _

theorem ask_alike {grant : PasswordGrant} (hgrant : allowed (s.grantRequest grant)) :
    Step.Alike R (ask n s grant) (ask m s grant) := by
  refine (transmit_alike h hgrant).bind fun reply => ?_
  exact (Step.Alike.ofExcept _).bind fun response => Step.Alike.ofExcept _

theorem store_alike (g : Granted) : Step.Alike R (store n g) (store m g) := by
  refine (readClock_alike h).bind fun now => ?_
  refine (Step.Alike.ofExcept _).bind fun kept => ?_
  refine Step.Alike.bind ?_ fun _ => .pure _
  exact fun _ _ hab => ⟨rfl, hab.network, rfl⟩

section

variable (hgrant : ∀ grant, s.credentials = .password grant → allowed (s.grantRequest grant))
include hgrant

theorem token_alike : Step.Alike R (token n s) (token m s) := by
  unfold token
  cases hs : s.credentials with
  | token text => exact .pure text
  | password grant =>
    refine (look_alike h).bind fun first => ?_
    cases first with
    | some text => exact .pure text
    | none =>
      refine (look_alike h).bind fun second => ?_
      cases second with
      | some text => exact .pure text
      | none => exact (ask_alike h (hgrant grant hs)).bind fun g => store_alike h g

/-- A request that is allowed with any token goes the same way on both networks. -/
theorem request_alike {method : Method} {url : Url} {body : Body}
    (hr : ∀ bearer, allowed { method, url, bearer := some bearer, body }) :
    Step.Alike R (request n s method url body) (request m s method url body) := by
  refine (token_alike h hgrant).adapt _ |>.bind fun bearer => ?_
  dsimp only
  split
  · refine (transmit_alike h (hr bearer)).bind fun reply => ?_
    cases reply with
    | ok response => exact .pure _
    | error fault => exact .throw _
  · -- a token that no header can hold: nothing is sent
    exact fun _ _ hab => ⟨rfl, hab⟩

theorem fetch_alike (shape : Shape α) {url : Url}
    (hr : ∀ bearer, allowed { method := .get, url, bearer := some bearer }) :
    Step.Alike R (fetch n s shape url) (fetch m s shape url) := by
  refine (request_alike h hgrant hr).bind fun response => ?_
  exact (accept_alike _ _ _).bind fun _ => readBody_alike _ _ _

theorem fetch?_alike (shape : Shape α) {url : Url}
    (hr : ∀ bearer, allowed { method := .get, url, bearer := some bearer }) :
    Step.Alike R (fetch? n s shape url) (fetch? m s shape url) := by
  refine (request_alike h hgrant hr).bind fun response => ?_
  split
  · exact .pure _
  · refine (accept_alike _ _ _).bind fun _ => ?_
    exact (readBody_alike _ _ _).map _

theorem sendRoles_alike {method : Method} {url : Url} {roles : List Role}
    (hr : ∀ bearer, allowed { method, url, bearer := some bearer, body := rolesBody roles }) :
    Step.Alike R (sendRoles n s method url roles) (sendRoles m s method url roles) :=
  (request_alike h hgrant hr).bind fun _ => accept_alike _ _ _

end

/-- A call whose requests are allowed goes the same way on both networks. -/
theorem perform_alike (c : Call) (hc : ∀ r, s.MaySend c r → allowed r) :
    Step.Alike R (perform n s c) (perform m s c) := by
  have hgrant : ∀ grant, s.credentials = .password grant → allowed (s.grantRequest grant) :=
    fun _ hs => hc _ (.grant hs)
  have hr := fun bearer => hc _ (.call bearer)
  match c with
  | .group realm name => exact (fetch_alike h hgrant _ hr).bind fun _ => .pure _
  | .client realm clientId => exact (fetch_alike h hgrant _ hr).bind fun _ => .pure _
  | .role realm (.named scope name) => exact fetch?_alike h hgrant _ hr
  | .role realm (.mapped group scope id) => exact (fetch_alike h hgrant _ hr).bind fun _ => .pure _
  | .available realm group scope => exact fetch_alike h hgrant _ hr
  | .assigned realm group scope => exact fetch_alike h hgrant _ hr
  | .change realm goal group scope roles => exact sendRoles_alike h hgrant hr

/-- The directories behind a service, reached over networks that are alike. -/
theorem directory_alike (s : Service) :
    Directory.Alike (Session.Alike R) (fun c => ∀ r, s.MaySend c r → allowed r) (directory n s)
      (directory m s) :=
  fun c a b hc hab => perform_alike h c hc a b hab

end

end Service

end GroupRoles
