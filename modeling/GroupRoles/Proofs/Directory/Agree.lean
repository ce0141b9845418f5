import GroupRoles.Proofs.Directory.Alike

/-!
# Directories that agree

Two directories that agree give the same answers, but where a change fails they may give different
reasons (`Directory.Agree`). They need to agree only on certain calls. Which calls a program makes
hangs on the answers that it gets, so that `Program.Keeps` says it of good answers: a program that
keeps to the calls has the same outcome on both directories, but for the reason of a failure
(`run_agree`).
-/

namespace GroupRoles

variable {α β σ τ : Type}

namespace Program

/-- As long as the answers are good, a program makes only allowed calls, and its result has a
property. -/
def Keeps (allowed : Call → Prop) (good : (c : Call) → c.Answer → Prop) (post : α → Prop) :
    Program α → Prop
  | .done a => post a
  | .fail _ => True
  | .ask c next => allowed c ∧ ∀ a, good c a → (next a).Keeps allowed good post
  | .gather realm queries next =>
    (∀ q ∈ queries, allowed (.role realm q)) ∧ ∀ replies, (next replies).Keeps allowed good post

variable {allowed : Call → Prop} {good : (c : Call) → c.Answer → Prop} {post : α → Prop}

theorem Keeps.bind {post' : β → Prop} {p : Program α} {f : α → Program β}
    (hp : p.Keeps allowed good post) (hf : ∀ a, post a → (f a).Keeps allowed good post') :
    (p.bind f).Keeps allowed good post' := by
  induction p with
  | done a => exact hf a hp
  | fail problem => trivial
  | ask c next ih => exact ⟨hp.1, fun a ha => ih a (hp.2 a ha)⟩
  | gather realm queries next ih => exact ⟨hp.1, fun replies => ih replies (hp.2 replies)⟩

end Program

/-- In related states both directories have the same reply to an allowed call, and a good one, or
both fail to make a change; they come to related states. -/
structure Directory.Agree (R : σ → τ → Prop) (allowed : Call → Prop)
    (good : (c : Call) → c.Answer → Prop) (d : Directory σ) (e : Directory τ) : Prop where
  reply : ∀ {c s t}, allowed c → R s t → (d.answer c s).1 = (e.answer c t).1 ∨
    c.isChange = true ∧ ∃ failure failure', (d.answer c s).1 = .error failure ∧
      (e.answer c t).1 = .error failure'
  good : ∀ {c s t a}, allowed c → R s t → (e.answer c t).1 = .ok a → good c a
  state : ∀ {c s t}, allowed c → R s t → R (d.answer c s).2 (e.answer c t).2

/-- The same result, or a failure of either directory; the same calls, and related states. -/
structure Outcome.Agree (R : σ → τ → Prop) (o : Outcome σ α) (o' : Outcome τ α) : Prop where
  result : o.result = o'.result ∨ ∃ failure failure', o.result = .error (.directory failure) ∧
    o'.result = .error (.directory failure')
  calls : o.calls = o'.calls
  state : R o.state o'.state

variable {R : σ → τ → Prop}

theorem Outcome.Agree.after {o : Outcome σ α} {o' : Outcome τ α} (h : o.Agree R o')
    {events events' : List Event} (hcalls : events.map Event.call = events'.map Event.call) :
    (o.after events).Agree R (o'.after events') where
  result := h.result
  calls := by
    have hrest : o.events.map Event.call = o'.events.map Event.call := h.calls
    simp only [Outcome.calls, Outcome.after, List.map_append, hcalls, hrest]
  state := h.state

variable {allowed : Call → Prop} {good : (c : Call) → c.Answer → Prop} {d : Directory σ}
  {e : Directory τ}

/-- A lookup makes no change, so that its reply is the same. -/
theorem Directory.Agree.role (h : Directory.Agree R allowed good d e) {realm : String}
    {query : RoleQuery} (hallowed : allowed (.role realm query)) (s : σ) (t : τ) (hst : R s t) :
    (d.answer (.role realm query) s).1 = (e.answer (.role realm query) t).1 ∧
      R (d.answer (.role realm query) s).2 (e.answer (.role realm query) t).2 :=
  ⟨(h.reply hallowed hst).resolve_right fun hchange => Bool.false_ne_true hchange.1,
    h.state hallowed hst⟩

namespace Program

/-- A program that keeps to the calls has the same outcome on directories that agree, but for the
reason of a failure. -/
theorem run_agree (h : Directory.Agree R allowed good d e) {post : α → Prop} {p : Program α}
    (hp : p.Keeps allowed good post) {s : σ} {t : τ} (hst : R s t) :
    (p.run d s).Agree R (p.run e t) := by
  induction p generalizing s t with
  | done a => exact ⟨.inl rfl, rfl, hst⟩
  | fail problem => exact ⟨.inl rfl, rfl, hst⟩
  | ask c next ih =>
    have hnext : R (d.answer c s).2 (e.answer c t).2 := h.state hp.1 hst
    simp only [run]
    rcases h.reply hp.1 hst with hreply | ⟨-, failure, failure', hreply, hreply'⟩
    · rw [hreply]
      cases hanswer : (e.answer c t).1 with
      | error failure => exact ⟨.inl rfl, rfl, hnext⟩
      -- the answer is a good one, so that the program still keeps to the calls
      | ok a => exact (ih a (hp.2 a (h.good hp.1 hst hanswer)) hnext).after rfl
    · rw [hreply, hreply']
      exact ⟨.inr ⟨failure, failure', rfl, rfl⟩, rfl, hnext⟩
  | gather realm queries next ih =>
    obtain ⟨hreplies, hnext⟩ := Directory.lookUp_congr (fun q hq => h.role (hp.1 q hq)) hst
    simp only [run]
    rw [← hreplies]
    exact (ih _ (hp.2 _) hnext).after rfl

end Program

end GroupRoles
