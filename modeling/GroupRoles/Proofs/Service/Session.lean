import GroupRoles.Proofs.Service.Course

/-!
# The tokens of a session

A session makes its calls one after the other and keeps a token between them. `TokenRules` says when
it asks for one, which one it shows, which one it keeps and until when, and what it does with one
that is refused; `turns_tokens` says that every session follows these rules, and that one with a
given token never asks for any.
-/

namespace GroupRoles.Service

open Http

variable {σ : Type}

/-! ## Sessions and their logs -/

/-- The turns of calls that are made one after the other. -/
def turns (n : Network σ) (s : Service) : List Call → Session σ → List (Turn σ)
  | [], _ => []
  | c :: rest, a => turn n s c a :: turns n s rest (turn n s c a).after

/-- The exchanges of all turns, in order. -/
def log (ts : List (Turn σ)) : List (Exchange σ) :=
  ts.flatMap Turn.exchanges

/-- The token that an exchange grants, if it asks for one. -/
def grantOf (s : Service) (grant : PasswordGrant) (e : Exchange σ) : Option Granted :=
  if e.request = s.grantRequest grant then s.grantedIn e else none

/-- The text of the token that was granted last. -/
def lastGranted (s : Service) (grant : PasswordGrant) (es : List (Exchange σ)) : Option String :=
  (es.filterMap (s.grantOf grant)).getLast?.map Granted.token

/-- The clock can show the expiry of every token that was granted. -/
def Representable (n : Network σ) (s : Service) (grant : PasswordGrant)
    (es : List (Exchange σ)) : Prop :=
  ∀ e ∈ es, ∀ g ∈ s.grantOf grant e,
    (n.now (n.send e.request e.before).2).1 / second + g.lifetime ≤ maxSeconds

/-- Some request that showed a token was refused with status 401. -/
def Unauthorized (es : List (Exchange σ)) : Prop :=
  ∃ e ∈ es, e.request.bearer.isSome ∧ ∃ response, e.answer = .ok response ∧ response.status = 401

/-- How the turns of a session use tokens that are granted for a password. -/
structure TokenRules (n : Network σ) (s : Service) (grant : PasswordGrant)
    (ts : List (Turn σ)) : Prop where
  /-- A token is asked for exactly when none is kept or the kept one is too old. -/
  asks_iff : ∀ t ∈ ts, s.grantRequest grant ∈ t.requests ↔
    t.before.NeedsGrant (n.now t.before.network).1
  /-- A turn asks for a token at most once, and then sends the request of its call at most once. -/
  requests_eq : ∀ t ∈ ts, ∃ asked sent, t.requests = asked ++ sent ∧
    (asked = [] ∨ asked = [s.grantRequest grant]) ∧
    (sent = [] ∨ ∃ bearer, sent = [s.callRequest bearer t.call])
  /-- When no token is granted, the call sends nothing else and the kept token stays. -/
  refused : ∀ t ∈ ts, ∀ e ∈ t.exchanges, e.request = s.grantRequest grant →
    s.grantedIn e = none → t.exchanges = [e] ∧ t.after.kept = t.before.kept
  /-- A request that shows a token shows the one that was granted last. -/
  bearer_eq : ∀ before e after bearer, log ts = before ++ e :: after →
    e.request.bearer = some bearer → s.lastGranted grant before = some bearer
  /-- A granted token is kept until its lifetime has passed from the time that the clock shows when
  the answer is there. -/
  keeps_granted : ∀ t ∈ ts, ¬ Unauthorized t.exchanges → ∀ e ∈ t.exchanges,
    ∀ g ∈ s.grantOf grant e, t.after.kept =
      some ⟨g.token, (n.now (n.send e.request e.before).2).1 + g.lifetime * second⟩
  /-- A turn that is granted no token leaves the kept one. -/
  keeps : ∀ t ∈ ts, ¬ Unauthorized t.exchanges → (∀ e ∈ t.exchanges, s.grantOf grant e = none) →
    t.after.kept = t.before.kept
  /-- A token that was refused with status 401 is not kept. -/
  drops : ∀ t ∈ ts, Unauthorized t.exchanges → t.after.kept = none
  /-- After a token was refused with status 401, the next turn asks for one first. -/
  asks_again : ∀ earlier t next later, ts = earlier ++ t :: next :: later →
    ∀ e ∈ t.exchanges, ∀ response, e.request.bearer.isSome → e.answer = .ok response →
    response.status = 401 → ∃ rest, next.requests = s.grantRequest grant :: rest

/-! ## What one turn sends -/

/-- The requests that a session sends for a token: one if it needs a token, else none. -/
def Asks (n : Network σ) (s : Service) (grant : PasswordGrant) (a : Session σ)
    (asked : List Http.Request) : Prop :=
  (a.NeedsGrant (n.now a.network).1 ∧ asked = [s.grantRequest grant]) ∨
    (¬ a.NeedsGrant (n.now a.network).1 ∧ asked = [])

section

variable {n : Network σ} {s : Service} {grant : PasswordGrant} {a a' : Session σ}
  {es : List (Exchange σ)} {result : Except ServiceFault String} {c : Call} {reply : Reply c}

theorem bearer_callRequest (s : Service) (bearer : String) (c : Call) :
    (s.callRequest bearer c).bearer = some bearer := by
  rw [callRequest_eq]

theorem callRequest_ne_grantRequest (s : Service) (grant : PasswordGrant) (bearer : String)
    (c : Call) : s.callRequest bearer c ≠ s.grantRequest grant := by
  intro h
  have hbearer : (s.callRequest bearer c).bearer = none := congrArg Request.bearer h
  rw [bearer_callRequest] at hbearer
  cases hbearer

theorem TokenCourse.asks (h : TokenCourse n s a (.password grant) es result a') :
    Asks n s grant a (es.map Exchange.request) := by
  cases h with
  | held hkept hfresh =>
    refine .inr ⟨?_, rfl⟩
    rintro (hnone | ⟨kept', hkept', hstale⟩)
    · rw [hkept] at hnone
      cases hnone
    · rw [hkept] at hkept'
      cases hkept'
      omega
  | refused hneeds hnone => exact .inl ⟨hneeds, rfl⟩
  | granted hneeds hgranted => exact .inl ⟨hneeds, rfl⟩
  | beyond hneeds hgranted hbeyond => exact .inl ⟨hneeds, rfl⟩

/-- The requests of a call: those for a token, and then perhaps its own. -/
theorem CallCourse.asks (hs : s.credentials = .password grant)
    (h : CallCourse n s a c es reply a') :
    ∃ asked sent, es.map Exchange.request = asked ++ sent ∧ Asks n s grant a asked ∧
      (sent = [] ∨ ∃ bearer, sent = [s.callRequest bearer c]) := by
  cases h with
  | refused htoken =>
    rw [hs] at htoken
    exact ⟨_, [], (List.append_nil _).symm, htoken.asks, .inl rfl⟩
  | unsendable htoken hno =>
    rw [hs] at htoken
    exact ⟨_, [], (List.append_nil _).symm, htoken.asks, .inl rfl⟩
  | answered htoken hsendable =>
    rw [hs] at htoken
    exact ⟨_, _, List.map_append, htoken.asks, .inr ⟨_, rfl⟩⟩

/-- An exchange on the way to a token asks for it. -/
theorem TokenCourse.request_eq (h : TokenCourse n s a (.password grant) es result a')
    {e : Exchange σ} (he : e ∈ es) : e.request = s.grantRequest grant := by
  have hrequest : e.request ∈ es.map Exchange.request := List.mem_map_of_mem he
  rcases h.asks with ⟨-, hes⟩ | ⟨-, hes⟩
  · rw [hes] at hrequest
    exact List.mem_singleton.mp hrequest
  · rw [hes] at hrequest
    exact absurd hrequest List.not_mem_nil

/-- When no token is granted there is none, and what was kept stays. -/
theorem TokenCourse.refused_of_grantedIn (h : TokenCourse n s a (.password grant) es result a')
    {e : Exchange σ} (he : e ∈ es) (hnone : s.grantedIn e = none) :
    es = [e] ∧ a'.kept = a.kept ∧ ∃ fault, result = .error fault := by
  cases h with
  | held hkept hfresh => exact absurd he List.not_mem_nil
  | refused hneeds hrefused =>
    rw [List.mem_singleton.mp he]
    exact ⟨rfl, rfl, _, rfl⟩
  | granted hneeds hgranted =>
    rw [List.mem_singleton.mp he, hgranted] at hnone
    cases hnone
  | beyond hneeds hgranted hbeyond =>
    rw [List.mem_singleton.mp he, hgranted] at hnone
    cases hnone

/-- A call that gets no token sends nothing else, and keeps what it kept. -/
theorem CallCourse.refused_of_grantedIn (hs : s.credentials = .password grant)
    (h : CallCourse n s a c es reply a') {e : Exchange σ} (he : e ∈ es)
    (hrequest : e.request = s.grantRequest grant) (hnone : s.grantedIn e = none) :
    es = [e] ∧ a'.kept = a.kept := by
  cases h with
  | refused htoken =>
    rw [hs] at htoken
    obtain ⟨hes, hkept, -⟩ := htoken.refused_of_grantedIn he hnone
    exact ⟨hes, hkept⟩
  | unsendable htoken hno =>
    rw [hs] at htoken
    obtain ⟨-, -, fault, hfault⟩ := htoken.refused_of_grantedIn he hnone
    cases hfault
  | answered htoken hsendable =>
    rw [hs] at htoken
    rcases List.mem_append.mp he with he | he
    · obtain ⟨-, -, fault, hfault⟩ := htoken.refused_of_grantedIn he hnone
      cases hfault
    · rw [List.mem_singleton.mp he] at hrequest
      exact absurd hrequest (callRequest_ne_grantRequest s grant _ c)

/-- A call with a given token sends its own request with it, and nothing else. -/
theorem CallCourse.requests_of_given {text : String} (hs : s.credentials = .token text)
    (h : CallCourse n s a c es reply a') :
    es.map Exchange.request =
      if (s.callRequest text c).sendable then [s.callRequest text c] else [] := by
  cases h with
  | refused htoken =>
    rw [hs] at htoken
    cases htoken
  | unsendable htoken hno =>
    rw [hs] at htoken
    cases htoken
    rw [hno]
    rfl
  | answered htoken hsendable =>
    rw [hs] at htoken
    cases htoken
    rw [hsendable]
    rfl

/-- A call whose token was refused with status 401 keeps no token. -/
theorem CallCourse.kept_of_unauthorized (hs : s.credentials = .password grant)
    (h : CallCourse n s a c es reply a') (hrefused : Unauthorized es) : a'.kept = none := by
  obtain ⟨e, he, hbearer, response, hanswer, hstatus⟩ := hrefused
  have hasks : ∀ {es' result a''}, TokenCourse n s a (.password grant) es' result a'' → e ∉ es' := by
    intro es' result a'' htoken he'
    rw [htoken.request_eq he'] at hbearer
    cases hbearer
  cases h with
  | refused htoken =>
    rw [hs] at htoken
    exact absurd he (hasks htoken)
  | unsendable htoken hno =>
    rw [hs] at htoken
    exact absurd he (hasks htoken)
  | @answered es₀ bearer a₀ htoken hsendable =>
    rw [hs] at htoken
    have he : e = n.exchange (s.callRequest bearer c) a₀.network :=
      List.mem_singleton.mp ((List.mem_append.mp he).resolve_left (hasks htoken))
    rw [he] at hanswer
    have hsent : (n.send (s.callRequest bearer c) a₀.network).1 = .ok response := hanswer
    rw [hsent]
    exact if_pos hstatus

end

/-! ## Which token is kept -/

section

variable {n : Network σ} {s : Service} {grant : PasswordGrant} {a a' : Session σ}
  {es : List (Exchange σ)} {result : Except ServiceFault String} {c : Call} {reply : Reply c}
  {e : Exchange σ}

theorem grantOf_grantRequest (n : Network σ) (s : Service) (grant : PasswordGrant) (state : σ) :
    s.grantOf grant (n.exchange (s.grantRequest grant) state) =
      s.grantedIn (n.exchange (s.grantRequest grant) state) :=
  if_pos rfl

/-- The exchange of a call itself grants nothing. -/
theorem grantOf_callRequest (n : Network σ) (s : Service) (grant : PasswordGrant)
    (bearer : String) (c : Call) (state : σ) :
    s.grantOf grant (n.exchange (s.callRequest bearer c) state) = none :=
  if_neg (callRequest_ne_grantRequest s grant bearer c)

/-- The clock can show the expiry of a token that is granted, so this is the expiry that is kept. -/
theorem TokenCourse.kept_of_granted (h : TokenCourse n s a (.password grant) es result a')
    (hrep : Representable n s grant es) (he : e ∈ es) {g : Granted}
    (hg : s.grantOf grant e = some g) :
    a'.kept = some ⟨g.token, (n.now (n.send e.request e.before).2).1 + g.lifetime * second⟩ := by
  have hle := hrep e he g hg
  cases h with
  | held hkept hfresh => exact absurd he List.not_mem_nil
  | refused hneeds hrefused =>
    rw [List.mem_singleton.mp he, grantOf_grantRequest, hrefused] at hg
    cases hg
  | granted hneeds hgranted =>
    obtain rfl := List.mem_singleton.mp he
    rw [grantOf_grantRequest, hgranted] at hg
    cases hg
    rfl
  | beyond hneeds hgranted hbeyond =>
    obtain rfl := List.mem_singleton.mp he
    rw [grantOf_grantRequest, hgranted] at hg
    cases hg
    exact absurd hle (Nat.not_le.mpr hbeyond)

theorem TokenCourse.kept_of_nothing (h : TokenCourse n s a (.password grant) es result a')
    (hnone : ∀ e ∈ es, s.grantOf grant e = none) : a'.kept = a.kept := by
  cases h with
  | held hkept hfresh => rfl
  | refused hneeds hrefused => rfl
  | granted hneeds hgranted =>
    have hgrant := hnone _ (List.mem_singleton_self _)
    rw [grantOf_grantRequest, hgranted] at hgrant
    cases hgrant
  | beyond hneeds hgranted hbeyond => rfl

/-- Unless its token is refused, a call keeps what it came to on the way to its token; only there
tokens are granted. -/
theorem CallCourse.exists_tokenCourse (hs : s.credentials = .password grant)
    (h : CallCourse n s a c es reply a') (hauthorized : ¬ Unauthorized es) :
    ∃ es₀ result a₀, TokenCourse n s a (.password grant) es₀ result a₀ ∧ a'.kept = a₀.kept ∧
      (∀ e ∈ es₀, e ∈ es) ∧ ∀ e ∈ es, e ∈ es₀ ∨ s.grantOf grant e = none := by
  cases h with
  | refused htoken =>
    rw [hs] at htoken
    exact ⟨_, _, _, htoken, rfl, fun _ he => he, fun _ he => .inl he⟩
  | unsendable htoken hno =>
    rw [hs] at htoken
    exact ⟨_, _, _, htoken, rfl, fun _ he => he, fun _ he => .inl he⟩
  | @answered es₀ bearer a₀ htoken hsendable =>
    rw [hs] at htoken
    refine ⟨es₀, _, a₀, htoken, ?_, fun _ he => List.mem_append_left _ he, fun e he => ?_⟩
    · cases hanswer : (n.send (s.callRequest bearer c) a₀.network).1 with
      | error fault => rfl
      | ok response =>
        refine if_neg fun hstatus => hauthorized ⟨_, List.mem_append_right _
          (List.mem_singleton_self _), ?_, response, hanswer, hstatus⟩
        rw [Network.exchange, bearer_callRequest]
        rfl
    · refine (List.mem_append.mp he).imp_right fun he => ?_
      rw [List.mem_singleton.mp he]
      exact grantOf_callRequest n s grant bearer c a₀.network

theorem CallCourse.kept_of_granted (hs : s.credentials = .password grant)
    (h : CallCourse n s a c es reply a') (hrep : Representable n s grant es)
    (hauthorized : ¬ Unauthorized es) (he : e ∈ es) {g : Granted}
    (hg : s.grantOf grant e = some g) :
    a'.kept = some ⟨g.token, (n.now (n.send e.request e.before).2).1 + g.lifetime * second⟩ := by
  obtain ⟨es₀, result, a₀, htoken, hkept, hsub, hgrants⟩ := h.exists_tokenCourse hs hauthorized
  rcases hgrants e he with he₀ | hnone
  · rw [hkept]
    exact htoken.kept_of_granted (fun e he => hrep e (hsub e he)) he₀ hg
  · rw [hnone] at hg
    cases hg

theorem CallCourse.kept_of_nothing (hs : s.credentials = .password grant)
    (h : CallCourse n s a c es reply a') (hauthorized : ¬ Unauthorized es)
    (hnone : ∀ e ∈ es, s.grantOf grant e = none) : a'.kept = a.kept := by
  obtain ⟨es₀, result, a₀, htoken, hkept, hsub, -⟩ := h.exists_tokenCourse hs hauthorized
  rw [hkept]
  exact htoken.kept_of_nothing fun e he => hnone e (hsub e he)

end

/-! ## Which token is shown -/

section

variable {n : Network σ} {s : Service} {grant : PasswordGrant} {a a' : Session σ}
  {before es : List (Exchange σ)} {result : Except ServiceFault String} {c : Call} {reply : Reply c}

/-- What a session keeps is the token that was granted last. -/
def KeepsLast (s : Service) (grant : PasswordGrant) (before : List (Exchange σ))
    (a : Session σ) : Prop :=
  ∀ kept ∈ a.kept, s.lastGranted grant before = some kept.text

/-- Every request of some exchanges shows the token that was granted last before it. -/
def ShowsLast (s : Service) (grant : PasswordGrant) :
    List (Exchange σ) → List (Exchange σ) → Prop
  | _, [] => True
  | before, e :: rest =>
    (∀ bearer ∈ e.request.bearer, s.lastGranted grant before = some bearer) ∧
      ShowsLast s grant (before ++ [e]) rest

theorem ShowsLast.append {after : List (Exchange σ)} (h : ShowsLast s grant before es)
    (h' : ShowsLast s grant (before ++ es) after) : ShowsLast s grant before (es ++ after) := by
  induction es generalizing before with
  | nil => rwa [List.append_nil] at h'
  | cons e rest ih =>
    rw [List.append_cons] at h'
    exact ⟨h.1, ih h.2 h'⟩

theorem ShowsLast.of_split {before earlier later : List (Exchange σ)} {e : Exchange σ}
    (h : ShowsLast s grant before (earlier ++ e :: later)) :
    ∀ bearer ∈ e.request.bearer, s.lastGranted grant (before ++ earlier) = some bearer := by
  induction earlier generalizing before with
  | nil =>
    rw [List.append_nil]
    exact h.1
  | cons e' rest ih =>
    rw [List.append_cons]
    exact ih h.2

theorem lastGranted_append_of_none {e : Exchange σ} (h : s.grantOf grant e = none) :
    s.lastGranted grant (before ++ [e]) = s.lastGranted grant before := by
  rw [lastGranted, List.filterMap_append, List.filterMap_cons_none h, List.filterMap_nil,
    List.append_nil, lastGranted]

theorem lastGranted_append_of_some (before : List (Exchange σ)) {e : Exchange σ} {g : Granted}
    (h : s.grantOf grant e = some g) :
    s.lastGranted grant (before ++ [e]) = some g.token := by
  rw [lastGranted, List.filterMap_append, List.filterMap_cons_some h, List.filterMap_nil,
    List.getLast?_concat]
  rfl

/-- On the way to a token nothing shows one, and what is kept afterwards was granted last; so was
the token that is found. -/
theorem TokenCourse.showsLast (h : TokenCourse n s a (.password grant) es result a')
    (hlast : s.KeepsLast grant before a) (hrep : Representable n s grant es) :
    s.ShowsLast grant before es ∧ s.KeepsLast grant (before ++ es) a' ∧
      ∀ bearer, result = .ok bearer → s.lastGranted grant (before ++ es) = some bearer := by
  have hnothing : ∀ state, s.ShowsLast grant before [n.exchange (s.grantRequest grant) state] :=
    fun state => ⟨fun bearer hbearer => absurd hbearer (Option.not_mem_none bearer), trivial⟩
  cases h with
  | held hkept hfresh =>
    rw [List.append_nil]
    refine ⟨trivial, hlast, fun bearer hbearer => ?_⟩
    cases hbearer
    exact hlast _ hkept
  | @refused _ state _ _ hneeds hrefused =>
    refine ⟨hnothing state, ?_, fun bearer hbearer => by cases hbearer⟩
    intro kept hkept
    rw [lastGranted_append_of_none (by rw [grantOf_grantRequest, hrefused])]
    exact hlast kept hkept
  | @granted _ state _ g hneeds hgranted =>
    have hgrant := lastGranted_append_of_some before
      ((grantOf_grantRequest n s grant state).trans hgranted)
    refine ⟨hnothing state, ?_, fun bearer hbearer => ?_⟩
    · intro kept' hkept'
      cases hkept'
      exact hgrant
    · cases hbearer
      exact hgrant
  | @beyond _ state _ g hneeds hgranted hbeyond =>
    have hle := hrep _ (List.mem_singleton_self _) g
      ((grantOf_grantRequest n s grant state).trans hgranted)
    exact absurd hle (Nat.not_le.mpr hbeyond)

/-- The request of a call shows the token that was granted last. -/
theorem CallCourse.showsLast (hs : s.credentials = .password grant)
    (h : CallCourse n s a c es reply a') (hlast : s.KeepsLast grant before a)
    (hrep : Representable n s grant es) :
    s.ShowsLast grant before es ∧ s.KeepsLast grant (before ++ es) a' := by
  cases h with
  | refused htoken =>
    rw [hs] at htoken
    obtain ⟨hshows, hkeeps, -⟩ := htoken.showsLast hlast hrep
    exact ⟨hshows, hkeeps⟩
  | unsendable htoken hno =>
    rw [hs] at htoken
    obtain ⟨hshows, hkeeps, -⟩ := htoken.showsLast hlast hrep
    exact ⟨hshows, hkeeps⟩
  | @answered es₀ bearer a₀ htoken hsendable =>
    rw [hs] at htoken
    have hrep₀ : Representable n s grant es₀ := fun e he => hrep e (List.mem_append_left _ he)
    obtain ⟨hshows, hkeeps, hbearer⟩ := htoken.showsLast hlast hrep₀
    refine ⟨hshows.append ⟨fun bearer' hbearer' => ?_, trivial⟩, ?_⟩
    · rw [Network.exchange, bearer_callRequest] at hbearer'
      cases hbearer'
      exact hbearer bearer rfl
    · have hnone := grantOf_callRequest n s grant bearer c a₀.network
      intro kept hkept
      rw [← List.append_assoc, lastGranted_append_of_none hnone]
      refine hkeeps kept ?_
      unfold keptAfter at hkept
      split at hkept
      · split at hkept
        · cases hkept
        · exact hkept
      · exact hkept

end

/-! ## Whole sessions -/

section

variable {n : Network σ} {s : Service} {grant : PasswordGrant}

/-- A turn of a session is made by a call. -/
theorem exists_turn_of_mem {calls : List Call} {a : Session σ} {t : Turn σ}
    (ht : t ∈ turns n s calls a) : ∃ c b, t = turn n s c b := by
  induction calls generalizing a with
  | nil => exact absurd ht List.not_mem_nil
  | cons c rest ih =>
    rcases List.mem_cons.mp ht with rfl | ht
    · exact ⟨c, a, rfl⟩
    · exact ih ht

/-- The turn after a turn goes on from its session. -/
theorem exists_turn_of_split {calls : List Call} {a : Session σ} {earlier later : List (Turn σ)}
    {t next : Turn σ} (h : turns n s calls a = earlier ++ t :: next :: later) :
    ∃ c, next = turn n s c t.after := by
  induction earlier generalizing calls a with
  | nil =>
    match calls, h with
    | c :: c' :: rest, h =>
      simp only [turns, List.nil_append, List.cons.injEq] at h
      obtain ⟨rfl, rfl, -⟩ := h
      exact ⟨c', rfl⟩
  | cons t' earlier ih =>
    match calls, h with
    | c :: rest, h =>
      simp only [turns, List.cons_append, List.cons.injEq] at h
      exact ih h.2

/-- A session shows the tokens that it was granted last. -/
theorem turns_showsLast (hs : s.credentials = .password grant) (hforward : n.Forward)
    {before : List (Exchange σ)} {calls : List Call} {a : Session σ}
    (hlast : s.KeepsLast grant before a) (hrep : Representable n s grant (log (turns n s calls a))) :
    s.ShowsLast grant before (log (turns n s calls a)) := by
  induction calls generalizing before a with
  | nil => trivial
  | cons c rest ih =>
    have hcourse := turn_course (fun _ _ => hforward) (s := s) c a
    have hrep' : Representable n s grant (turn n s c a).exchanges :=
      fun e he => hrep e (List.mem_append_left _ he)
    obtain ⟨hshows, hkeeps⟩ := hcourse.showsLast hs hlast hrep'
    exact hshows.append (ih hkeeps fun e he => hrep e (List.mem_append_right _ he))

/-- A session that keeps nothing at first follows the rules. -/
theorem turns_tokenRules (hs : s.credentials = .password grant) (hforward : n.Forward)
    (network : σ) (calls : List Call)
    (hrep : Representable n s grant (log (turns n s calls { network }))) :
    TokenRules n s grant (turns n s calls { network }) := by
  have hcourse : ∀ c a,
      CallCourse n s a c (turn n s c a).exchanges (turn n s c a).reply (turn n s c a).after :=
    turn_course fun _ _ => hforward
  have hempty : s.KeepsLast grant [] ({ network } : Session σ) :=
    fun kept hkept => absurd hkept (Option.not_mem_none kept)
  have hshows := turns_showsLast hs hforward hempty hrep
  have hrep' : ∀ t ∈ turns n s calls { network }, Representable n s grant t.exchanges :=
    fun t ht e he => hrep e (List.mem_flatMap.mpr ⟨t, ht, he⟩)
  constructor
  case asks_iff =>
    intro t ht
    obtain ⟨c, a, rfl⟩ := exists_turn_of_mem ht
    obtain ⟨asked, sent, hrequests, hasks, hsent⟩ := (hcourse c a).asks hs
    have hnot : s.grantRequest grant ∉ sent := by
      rcases hsent with rfl | ⟨bearer, rfl⟩
      · exact List.not_mem_nil
      · rw [List.mem_singleton]
        exact (callRequest_ne_grantRequest s grant bearer c).symm
    rw [Turn.requests, hrequests, List.mem_append, or_iff_left hnot]
    rcases hasks with ⟨hneeds, rfl⟩ | ⟨hfresh, rfl⟩
    · exact iff_of_true (List.mem_singleton_self _) hneeds
    · exact iff_of_false List.not_mem_nil hfresh
  case requests_eq =>
    intro t ht
    obtain ⟨c, a, rfl⟩ := exists_turn_of_mem ht
    obtain ⟨asked, sent, hrequests, hasks, hsent⟩ := (hcourse c a).asks hs
    refine ⟨asked, sent, hrequests, ?_, hsent⟩
    rcases hasks with ⟨-, hasked⟩ | ⟨-, hasked⟩
    · exact .inr hasked
    · exact .inl hasked
  case refused =>
    intro t ht e he hrequest hnone
    obtain ⟨c, a, rfl⟩ := exists_turn_of_mem ht
    exact (hcourse c a).refused_of_grantedIn hs he hrequest hnone
  case bearer_eq =>
    intro before e after bearer hsplit hbearer
    rw [hsplit] at hshows
    exact hshows.of_split bearer hbearer
  case keeps_granted =>
    intro t ht hauthorized e he g hg
    have hexpiry := hrep' t ht
    obtain ⟨c, a, rfl⟩ := exists_turn_of_mem ht
    exact (hcourse c a).kept_of_granted hs hexpiry hauthorized he hg
  case keeps =>
    intro t ht hauthorized hnone
    obtain ⟨c, a, rfl⟩ := exists_turn_of_mem ht
    exact (hcourse c a).kept_of_nothing hs hauthorized hnone
  case drops =>
    intro t ht hrefused
    obtain ⟨c, a, rfl⟩ := exists_turn_of_mem ht
    exact (hcourse c a).kept_of_unauthorized hs hrefused
  case asks_again =>
    intro earlier t next later hsplit e he response hbearer hanswer hstatus
    have ht : t ∈ turns n s calls { network } := by
      rw [hsplit]
      exact List.mem_append_right _ List.mem_cons_self
    obtain ⟨c', hnext⟩ := exists_turn_of_split hsplit
    obtain ⟨c, a, rfl⟩ := exists_turn_of_mem ht
    have hkept : (turn n s c a).after.kept = none :=
      (hcourse c a).kept_of_unauthorized hs ⟨e, he, hbearer, response, hanswer, hstatus⟩
    obtain ⟨asked, sent, hrequests, hasks, -⟩ := (hcourse c' (turn n s c a).after).asks hs
    rcases hasks with ⟨-, rfl⟩ | ⟨hfresh, -⟩
    · refine ⟨sent, ?_⟩
      rw [hnext]
      exact hrequests
    · exact absurd (.inl hkept) hfresh

/-- The tokens of every session: with a password it follows the rules; with a given token it asks
for none, and every request is that of its call and shows the given one. -/
theorem turns_tokens (n : Network σ) (s : Service) (network : σ) (calls : List Call) :
    (∀ grant, s.credentials = .password grant → n.Forward →
      Representable n s grant (log (turns n s calls { network })) →
      TokenRules n s grant (turns n s calls { network })) ∧
    ∀ text, s.credentials = .token text → ∀ t ∈ turns n s calls { network },
      t.requests =
        if (s.callRequest text t.call).sendable then [s.callRequest text t.call] else [] := by
  constructor
  · intro grant hs hforward hrep
    exact turns_tokenRules hs hforward network calls hrep
  · intro text hs t ht
    obtain ⟨c, a, rfl⟩ := exists_turn_of_mem ht
    have hpassword : ∀ grant, s.credentials = .password grant → n.Forward := by
      intro grant hgrant
      rw [hs] at hgrant
      cases hgrant
    exact (turn_course hpassword c a).requests_of_given hs

end

/-- Three calls for a password: the second answer refuses the first token, so the third call asks
for another. -/
theorem turns_tokens_refused :
    let grant : PasswordGrant := ⟨"master", "admin-cli", none, "admin", "secret"⟩
    let s : Service := ⟨{ secure := false, host := "[::1]".toList }, .password grant⟩
    let calls : List Call := [.client "r" "portal", .group "r" "staff", .client "r" "portal"]
    let replies : List Response :=
      [⟨200, Text.Utf8.encode "\x7b\"access_token\": \"a\", \"expires_in\": 60\x7d"⟩,
        ⟨200, Text.Utf8.encode "[]"⟩, ⟨401, []⟩,
        ⟨200, Text.Utf8.encode "\x7b\"access_token\": \"b\"\x7d"⟩,
        ⟨200, Text.Utf8.encode "[]"⟩]
    let ts := turns Network.scripted s calls { network := replies }
    ts.map (fun t => t.requests.map Request.bearer) =
        [[none, some "a"], [some "a"], [none, some "b"]] ∧
      TokenRules Network.scripted s grant ts := by
  intro grant s calls replies ts
  have hrep : Representable Network.scripted s grant (log ts) := by
    unfold Representable
    decide +kernel
  refine ⟨by decide +kernel, ?_⟩
  exact (turns_tokens Network.scripted s replies calls).1 grant rfl (fun _ => Nat.le_refl _) hrep

end GroupRoles.Service
