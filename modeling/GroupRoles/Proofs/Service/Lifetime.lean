import GroupRoles.Proofs.Service.Token
import Mathlib.Data.List.Basic

/-!
# Lifetimes that the clock cannot show

An answer that grants a token says how long it lives, in any number of seconds that is below
`2 ^ 64`. The clock shows fewer, so the expiry of a granted token can lie beyond it: then there is
no token, although one was granted (`token_of_granting_answer`, `exists_granted_beyondClock`).
-/

namespace GroupRoles.Service

open Http

variable {σ : Type} {n : Network σ} {s : Service} {grant : PasswordGrant} {a : Session σ}
  {response : Response} {g : Granted}

/-- When a token is asked for and the answer grants one, the token is returned and kept exactly when
the clock can show its expiry: the seconds of the time and of the lifetime come to `maxSeconds` at
most. Otherwise there is no token, and what was kept stays. -/
theorem token_of_granting_answer (hforward : n.Forward) (hs : s.credentials = .password grant)
    (hneeds : a.NeedsGrant (n.now a.network).1)
    (hanswer : (n.send (s.grantRequest grant) (a.looked n).network).1 = .ok response)
    (hsuccess : response.isSuccess = true)
    (hbody : decode Granted.shape response.body = .ok g) :
    let asked := { a.looked n with
      network := (n.send (s.grantRequest grant) (a.looked n).network).2 }
    let now := (n.now asked.network).1
    (token n s).run.run a =
      if now / second + g.lifetime ≤ maxSeconds then
        (.ok g.token,
          { asked.tick n with kept := some ⟨g.token, now + g.lifetime * second⟩ })
      else (.error .beyondClock, asked.tick n) := by
  intro asked now
  have hask : (ask n s grant).run.run (a.looked n) = (.ok g, asked) := by
    rw [run_ask, grantedBy_eq_ok_iff.mpr ⟨response, hanswer, hsuccess, hbody⟩]
  rw [run_token_of_needsGrant hforward hs hneeds, Step.run_bind, hask]
  dsimp only
  rw [run_store]
  by_cases hle : now / second + g.lifetime ≤ maxSeconds
  · rw [Granted.keep_of_le hle, if_pos hle]
  · rw [Granted.keep_of_lt (Nat.lt_of_not_le hle), if_neg hle]

/-- At the start of the clock the longest lifetime of a token that is returned has `maxSeconds`. -/
theorem token_of_longest_lifetime :
    let grant : PasswordGrant := ⟨"master", "admin-cli", none, "admin", "secret"⟩
    let s : Service := ⟨{ secure := false, host := "[::1]".toList }, .password grant⟩
    let response : Response := ⟨200, Text.Utf8.encode
      "\x7b\"access_token\": \"a\", \"expires_in\": 9223372036854775807\x7d"⟩
    let session : Session (List Response) := { network := [response] }
    session.NeedsGrant (Network.scripted.now session.network).1 ∧
      decode Granted.shape response.body = .ok ⟨"a", maxSeconds⟩ ∧
      ((token Network.scripted s).run.run session).1 = .ok "a" := by
  intro grant s response session
  have hbody : decode Granted.shape response.body = .ok ⟨"a", maxSeconds⟩ := by decide +kernel
  have hneeds : session.NeedsGrant (Network.scripted.now session.network).1 := .inl rfl
  have hforward : Network.scripted.Forward := fun _ => Nat.le_refl _
  have hcredentials : s.credentials = .password grant := rfl
  have hshown : 0 / second + maxSeconds ≤ maxSeconds :=
    Nat.le_of_eq (by rw [Nat.zero_div, Nat.zero_add])
  have htoken := token_of_granting_answer hforward hcredentials hneeds rfl rfl hbody
  exact ⟨hneeds, hbody, congrArg Prod.fst (htoken.trans (if_pos hshown))⟩

/-- It is not so that every answer that grants a token is returned with one: here the lifetime is
the largest count. -/
theorem exists_granted_beyondClock :
    ¬ ∀ (s : Service) (grant : PasswordGrant) (response : Response) (g : Granted),
      s.credentials = .password grant → response.isSuccess = true →
      decode Granted.shape response.body = .ok g →
      ((token Network.scripted s).run.run { network := [response] }).1 = .ok g.token := by
  intro h
  have htoken := h
    ⟨{ secure := false, host := "[::1]".toList },
      .password ⟨"master", "admin-cli", none, "admin", "secret"⟩⟩
    ⟨"master", "admin-cli", none, "admin", "secret"⟩
    ⟨200, Text.Utf8.encode
      "\x7b\"access_token\": \"a\", \"expires_in\": 18446744073709551615\x7d"⟩
    ⟨"a", 18446744073709551615⟩ rfl rfl (by decide +kernel)
  revert htoken
  decide +kernel

end GroupRoles.Service
