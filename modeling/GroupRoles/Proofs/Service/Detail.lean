import GroupRoles.Proofs.Http.ErrorText
import GroupRoles.Proofs.Service.Answer

/-!
# What errors tell of an answer

The fault of a refused token, or of a call without success, shows the text of the body that was
answered (`ServiceFault.Describes`). This text is brief unless the body holds a message that is not:
a message is shown as it is (`detail_isBrief_iff`).
-/

namespace GroupRoles

open Http

variable {σ : Type}

/-- What a fault shows of the body of an answer. -/
def ServiceFault.detail? : ServiceFault → Option String
  | grant _ _ detail | status _ _ _ detail => some detail
  | _ => none

/-- What the fault shows of an answer is the text of its body, and the network did give the answer,
with the status of the fault and without success. -/
def ServiceFault.Describes (n : Network σ) (fault : ServiceFault) : Prop :=
  ∀ detail, fault.detail? = some detail → ∃ r network response,
    (n.send r network).1 = .ok response ∧ response.isSuccess = false ∧
      fault.status? = some response.status ∧
      detail = errorText (Text.Utf8.lossy response.body)

theorem ServiceFault.describes_of_none (n : Network σ) {fault : ServiceFault}
    (h : fault.detail? = none) : fault.Describes n := by
  intro detail hdetail
  rw [h] at hdetail
  cases hdetail

namespace Service

variable {ε α β : Type} {n : Network σ} {s : Service} {a : Session σ} {response : Response}

/-! ## Tokens -/

theorem describes_of_granted {r : Http.Request} {network : σ}
    (hsend : (n.send r network).1 = .ok response) {fault : ServiceFault}
    (h : s.granted response = .error fault) : fault.Describes n := by
  unfold granted at h
  cases hsuccess : response.isSuccess with
  | true =>
    rw [hsuccess, if_pos rfl] at h
    cases hdecode : decode Granted.shape response.body with
    | error transport =>
      rw [hdecode] at h
      cases h
      exact ServiceFault.describes_of_none n rfl
    | ok g =>
      rw [hdecode] at h
      cases h
  | false =>
    rw [hsuccess] at h
    cases h
    intro detail hdetail
    cases hdetail
    exact ⟨r, network, response, hsend, hsuccess, rfl, rfl⟩

theorem describes_of_keep {g : Granted} {now : Nat} {fault : ServiceFault}
    (h : g.keep now = .error fault) : fault.Describes n := by
  rcases Nat.lt_or_ge maxSeconds (now / second + g.lifetime) with hlt | hle
  · rw [Granted.keep_of_lt hlt] at h
    cases h
    exact ServiceFault.describes_of_none n rfl
  · rw [Granted.keep_of_le hle] at h
    cases h

/-- A look at the kept token never fails. -/
theorem exists_run_look (n : Network σ) (a : Session σ) :
    ∃ found a', (look n : Step σ ε _).run.run a = (.ok found, a') := by
  cases hkept : a.kept with
  | none => exact ⟨none, a, run_look_of_none n hkept⟩
  | some kept => exact ⟨_, _, run_look_of_some n hkept⟩

theorem describes_of_ask_store {grant : PasswordGrant} {fault : ServiceFault}
    (h : ((ask n s grant >>= store n).run.run a).1 = .error fault) : fault.Describes n := by
  rw [Step.run_bind, run_ask] at h
  cases hsend : (n.send (s.grantRequest grant) a.network).1 with
  | error transport =>
    rw [hsend] at h
    cases h
    exact ServiceFault.describes_of_none n rfl
  | ok response =>
    rw [hsend, grantedBy] at h
    cases hgranted : s.granted response with
    | error fault' =>
      rw [hgranted] at h
      cases h
      exact describes_of_granted hsend hgranted
    | ok g =>
      rw [hgranted] at h
      dsimp only at h
      rw [run_store] at h
      -- only a lifetime that reaches beyond the clock can fail here
      cases hkeep : g.keep (n.now (n.send (s.grantRequest grant) a.network).2).1 with
      | ok kept =>
        rw [hkeep] at h
        cases h
      | error fault' =>
        rw [hkeep] at h
        cases h
        exact describes_of_keep hkeep

theorem describes_of_token {fault : ServiceFault}
    (h : ((token n s).run.run a).1 = .error fault) : fault.Describes n := by
  unfold token at h
  cases hs : s.credentials with
  | token text =>
    rw [hs] at h
    cases h
  | password grant =>
    rw [hs] at h
    obtain ⟨found, a', hlook⟩ := exists_run_look (ε := ServiceFault) n a
    obtain ⟨again, a'', hlook'⟩ := exists_run_look (ε := ServiceFault) n a'
    rw [Step.run_bind, hlook] at h
    cases found with
    | some text => cases h
    | none =>
      dsimp only at h
      rw [Step.run_bind, hlook'] at h
      cases again with
      | some text => cases h
      | none => exact describes_of_ask_store h

/-! ## Calls -/

theorem describes_of_replyTo {c : Call} {r : Http.Request} {network : σ}
    (hsend : (n.send r network).1 = .ok response) {failure : Failure}
    (h : s.replyTo c response = .error failure) {fault : ServiceFault}
    (hcause : failure.cause = .service fault) : fault.Describes n := by
  rcases replyTo_eq_error h with ⟨transport, htransport⟩ | ⟨hfailed, rfl⟩
  · rw [htransport] at hcause
    cases hcause
  · cases hcause
    intro detail hdetail
    cases hdetail
    exact ⟨r, network, response, hsend, hfailed, rfl, rfl⟩

theorem describes_of_answer {c : Call} {failure : Failure}
    (h : ((directory n s).answer c a).1 = .error failure) {fault : ServiceFault}
    (hcause : failure.cause = .service fault) : fault.Describes n := by
  change ((perform n s c).run.run a).1 = _ at h
  cases htoken : (token n s).run.run a with
  | mk result a' =>
    cases result with
    | error refused =>
      rw [perform_of_refused c htoken] at h
      cases h
      cases hcause
      exact describes_of_token (congrArg Prod.fst htoken)
    | ok bearer =>
      rw [perform_of_token c htoken] at h
      split at h
      · cases hsend : (n.send (s.callRequest bearer c) a'.network).1 with
        | error transport =>
          rw [hsend] at h
          cases h
          cases hcause
        | ok response =>
          rw [hsend] at h
          exact describes_of_replyTo hsend h hcause
      · cases h
        cases hcause

variable (n s a) in
/-- The text of a body is brief exactly when its message is, if it has one; without a message it is
not even blank. A message is shown as it is, and any text can be one, also an empty or a long one.
What the faults of tokens and calls show of an answer is the text of its body. -/
theorem detail_isBrief_iff :
    (∀ body, IsBrief (errorText body) ↔
      ∀ message, errorMessage? body = some message → IsBrief message) ∧
    (∀ body, errorMessage? body = none → Text.isAllBlank (errorText body) = false) ∧
    (∀ key ∈ errorKeys, ∀ message,
      errorText (Json.record [(key, .text message)]).compactText = message) ∧
    (∀ fault, ((token n s).run.run a).1 = .error fault → fault.Describes n) ∧
    ∀ c failure fault, ((directory n s).answer c a).1 = .error failure →
      failure.cause = .service fault → fault.Describes n :=
  ⟨fun _ => isBrief_errorText_iff, fun _ h => (errorText_of_none h).1,
    fun _ hkey message => errorText_of_message (errorMessage?_record hkey message),
    fun _ => describes_of_token, fun _ _ _ h hcause => describes_of_answer h hcause⟩

/-- The page of a gateway is shown without the white space around it. -/
theorem detail_isBrief_gateway :
    let s : Service := ⟨{ secure := false, host := "[::1]".toList },
      .password ⟨"master", "admin-cli", none, "admin", "s3cret"⟩⟩
    let a : Session (List Response) :=
      { network := [⟨502, Text.Utf8.encode "  Bad Gateway \n"⟩] }
    ∃ fault, ((token Network.scripted s).run.run a).1 = .error fault ∧
      fault.detail? = some "Bad Gateway" ∧ fault.Describes Network.scripted ∧
      IsBrief (errorText "  Bad Gateway \n") := by
  intro s a
  obtain ⟨hbrief, -, -, htoken, -⟩ := detail_isBrief_iff Network.scripted s a
  have hnone : errorMessage? "  Bad Gateway \n" = none := by decide +kernel
  have hfault : ((token Network.scripted s).run.run a).1 =
      .error (.grant s.tokenUrl.text 502 "Bad Gateway") := by decide +kernel
  refine ⟨_, hfault, rfl, htoken _ hfault, (hbrief _).mpr fun message hmessage => ?_⟩
  rw [hnone] at hmessage
  cases hmessage

/-- A token is refused and the fault shows nothing; another text has more than `maxErrorText`
characters. -/
theorem exists_detail_not_brief :
    let s : Service := ⟨{ secure := false, host := "[::1]".toList },
      .password ⟨"master", "admin-cli", none, "admin", "s3cret"⟩⟩
    let a : Session (List Response) :=
      { network := [⟨401, Text.Utf8.encode "\x7b\"error\":\"\"\x7d"⟩] }
    let long := String.ofList (List.replicate 201 'x')
    ((token Network.scripted s).run.run a).1 = .error (.grant s.tokenUrl.text 401 "") ∧
      errorText (Json.record [("error", .text long)]).compactText = long ∧
      maxErrorText < long.length ∧
      ¬ ∀ body, errorText body ≠ "" ∧ (errorText body).length ≤ maxErrorText := by
  intro s a long
  have hempty : errorText "\x7b\"error\":\"\"\x7d" = "" := by decide +kernel
  have hlong : errorText (Json.record [("error", .text long)]).compactText = long :=
    errorText_of_message (errorMessage?_record (by decide) long)
  have hlength : maxErrorText < long.length := by
    rw [String.length_ofList, List.length_replicate]
    decide
  exact ⟨by decide +kernel, hlong, hlength, fun hall => (hall _).1 hempty⟩

end Service

end GroupRoles
