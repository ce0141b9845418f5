import GroupRoles.Proofs.Service.Exchange

/-!
# What each step to a token does

A kept token is used as long as the clock is more than `grace` before its expiry
(`run_look_of_fresh`). Otherwise one request asks for a token (`run_ask`), and what it grants is
kept from the time that the clock then shows (`run_store`). `run_token_of_needsGrant` puts the steps
in a row.
-/

namespace GroupRoles

/-- A clock that does not go back from one look to the next. -/
def Http.Network.Forward {σ : Type} (n : Http.Network σ) : Prop :=
  ∀ a, (n.now a).1 ≤ (n.now (n.now a).2).1

namespace Service

open Http

variable {σ ε : Type}

theorem Token.isStale_eq_true_iff (t : Token) (now : Nat) :
    t.isStale now = true ↔ t.expiry ≤ now + grace :=
  decide_eq_true_iff

/-- A session needs a token at a time: it keeps none, or one that is too old. -/
def Session.NeedsGrant (a : Session σ) (now : Nat) : Prop :=
  a.kept = none ∨ ∃ kept, a.kept = some kept ∧ kept.expiry ≤ now + grace

theorem exists_fresh_of_not_needsGrant {a : Session σ} {now : Nat} (h : ¬ a.NeedsGrant now) :
    ∃ kept, a.kept = some kept ∧ now + grace < kept.expiry := by
  obtain ⟨hsome, hfresh⟩ := not_or.mp h
  obtain ⟨kept, hkept⟩ := Option.ne_none_iff_exists'.mp hsome
  exact ⟨kept, hkept, Nat.not_le.mp fun hle => hfresh ⟨kept, hkept, hle⟩⟩

/-- A session after a look at the clock. -/
def Session.tick (a : Session σ) (n : Network σ) : Session σ :=
  { a with network := (n.now a.network).2 }

/-- A session after two looks at its kept token; the clock is read only for a token. -/
def Session.looked (a : Session σ) (n : Network σ) : Session σ :=
  match a.kept with
  | none => a
  | some _ => (a.tick n).tick n

/-! ## Looking at the kept token -/

theorem run_look_of_none (n : Network σ) {a : Session σ} (h : a.kept = none) :
    (look n : Step σ ε _).run.run a = (.ok none, a) := by
  change (match a.kept with
    | none => (pure none : Step σ ε (Option String))
    | some kept => readClock n >>= fun now =>
        pure (if kept.isStale now then none else some kept.text)).run.run a = _
  rw [h]
  rfl

theorem run_look_of_some (n : Network σ) {a : Session σ} {kept : Token} (h : a.kept = some kept) :
    (look n : Step σ ε _).run.run a =
      (.ok (if kept.isStale (n.now a.network).1 then none else some kept.text), a.tick n) := by
  change (match a.kept with
    | none => (pure none : Step σ ε (Option String))
    | some kept => readClock n >>= fun now =>
        pure (if kept.isStale now then none else some kept.text)).run.run a = _
  rw [h]
  rfl

theorem run_look_of_fresh (n : Network σ) {a : Session σ} {kept : Token} (h : a.kept = some kept)
    (hfresh : (n.now a.network).1 + grace < kept.expiry) :
    (look n : Step σ ε _).run.run a = (.ok (some kept.text), a.tick n) := by
  have hstale : ¬ kept.isStale (n.now a.network).1 = true := by
    rw [Token.isStale_eq_true_iff]
    omega
  rw [run_look_of_some n h, if_neg hstale]

theorem run_look_of_stale (n : Network σ) {a : Session σ} {kept : Token} (h : a.kept = some kept)
    (hstale : kept.expiry ≤ (n.now a.network).1 + grace) :
    (look n : Step σ ε _).run.run a = (.ok none, a.tick n) := by
  rw [run_look_of_some n h, if_pos ((Token.isStale_eq_true_iff _ _).mpr hstale)]

/-! ## Asking for a token -/

/-- What the answer to a request for a token grants. -/
def grantedBy (s : Service) : Except TransportFault Response → Except ServiceFault Granted
  | .ok response => s.granted response
  | .error fault => .error (.transport fault)

/-- A token is granted by a successful answer whose body can be read. -/
theorem grantedBy_eq_ok_iff {s : Service} {answer : Except TransportFault Response} {g : Granted} :
    s.grantedBy answer = .ok g ↔
      ∃ response, answer = .ok response ∧ response.isSuccess = true ∧
        decode Granted.shape response.body = .ok g := by
  cases answer with
  | error fault => exact iff_of_false (fun h => by cases h) (fun ⟨_, h, _⟩ => by cases h)
  | ok response =>
    have hgranted : s.granted response = .ok g ↔
        response.isSuccess = true ∧ decode Granted.shape response.body = .ok g := by
      unfold granted
      cases response.isSuccess with
      | false => exact iff_of_false (fun h => by cases h) (fun h => by cases h.1)
      | true =>
        rw [if_pos rfl, and_iff_right rfl]
        cases decode Granted.shape response.body with
        | error fault => exact iff_of_false (fun h => by cases h) (fun h => by cases h)
        | ok g' => exact ⟨fun h => congrArg _ (Except.ok.inj h), fun h => h ▸ rfl⟩
    refine hgranted.trans ⟨fun h => ⟨response, rfl, h⟩, ?_⟩
    rintro ⟨_, ⟨⟩, h⟩
    exact h

theorem run_ask (n : Network σ) (s : Service) (grant : PasswordGrant) (a : Session σ) :
    (ask n s grant).run.run a =
      (s.grantedBy (n.send (s.grantRequest grant) a.network).1,
        { a with network := (n.send (s.grantRequest grant) a.network).2 }) := by
  rw [ask, Step.run_bind, run_transmit]
  cases (n.send (s.grantRequest grant) a.network).1 <;> rfl

/-- A granted token is kept, unless its lifetime reaches beyond the clock. -/
theorem run_store (n : Network σ) (g : Granted) (a : Session σ) :
    (store n g).run.run a =
      match g.keep (n.now a.network).1 with
      | .ok kept => (.ok kept.text, { a.tick n with kept := some kept })
      | .error fault => (.error fault, a.tick n) := by
  change (liftM (g.keep (n.now a.network).1) >>= fun kept => _ : Step σ ServiceFault String).run.run
    (a.tick n) = _
  cases g.keep (n.now a.network).1 <;> rfl

theorem Granted.keep_of_le {g : Granted} {now : Nat} (h : now / second + g.lifetime ≤ maxSeconds) :
    g.keep now = .ok ⟨g.token, now + g.lifetime * second⟩ :=
  if_pos h

theorem Granted.keep_of_lt {g : Granted} {now : Nat} (h : maxSeconds < now / second + g.lifetime) :
    g.keep now = .error .beyondClock :=
  if_neg (Nat.not_le.mpr h)

/-! ## The steps in a row -/

section

variable {n : Network σ} {s : Service} {grant : PasswordGrant} {a : Session σ}

theorem run_token_of_given {text : String} (hs : s.credentials = .token text) :
    (token n s).run.run a = (.ok text, a) := by
  unfold token
  rw [hs]
  rfl

/-- A kept token is used as long as it is fresh. -/
theorem run_token_of_fresh (hs : s.credentials = .password grant) {kept : Token}
    (hkept : a.kept = some kept) (hfresh : (n.now a.network).1 + grace < kept.expiry) :
    (token n s).run.run a = (.ok kept.text, a.tick n) := by
  unfold token
  rw [hs, Step.run_bind, run_look_of_fresh n hkept hfresh]
  rfl

/-- A session that needs a token asks for one: a clock that goes forward shows a stale token to the
second look too. -/
theorem run_token_of_needsGrant (hforward : n.Forward) (hs : s.credentials = .password grant)
    (hneeds : a.NeedsGrant (n.now a.network).1) :
    (token n s).run.run a = (ask n s grant >>= store n).run.run (a.looked n) := by
  unfold token
  rw [hs, Step.run_bind]
  rcases hneeds with hkept | ⟨kept, hkept, hstale⟩
  · have hlooked : a.looked n = a := by rw [Session.looked, hkept]
    rw [run_look_of_none n hkept, hlooked]
    dsimp only
    rw [Step.run_bind, run_look_of_none n hkept]
  · have hlooked : a.looked n = (a.tick n).tick n := by rw [Session.looked, hkept]
    have hagain : kept.expiry ≤ (n.now (a.tick n).network).1 + grace := by
      have hnow : (n.now a.network).1 ≤ (n.now (a.tick n).network).1 := hforward a.network
      omega
    have hkept' : (a.tick n).kept = some kept := hkept
    rw [run_look_of_stale n hkept hstale, hlooked]
    dsimp only
    rw [Step.run_bind, run_look_of_stale n hkept' hagain]

end

end Service

end GroupRoles
