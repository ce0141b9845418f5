import GroupRoles.Proofs.Directory.Trace

/-!
# Directories that answer alike

Two directories may keep different states and still give the same replies. `Directory.Alike` says
this of certain calls, by a relation of the states that the calls keep; a program that makes no
other call goes the same way on both (`run_alike`).
-/

namespace GroupRoles

variable {σ τ α : Type}

/-- In related states both directories reply the same to an allowed call, and come to related
states. -/
def Directory.Alike (R : σ → τ → Prop) (allowed : Call → Prop) (d : Directory σ)
    (e : Directory τ) : Prop :=
  ∀ c s t, allowed c → R s t →
    (d.answer c s).1 = (e.answer c t).1 ∧ R (d.answer c s).2 (e.answer c t).2

/-- The same result by the same events, in related states. -/
structure Outcome.Alike (R : σ → τ → Prop) (o : Outcome σ α) (o' : Outcome τ α) : Prop where
  result : o.result = o'.result
  events : o.events = o'.events
  state : R o.state o'.state

theorem Outcome.Alike.after {R : σ → τ → Prop} {o : Outcome σ α} {o' : Outcome τ α}
    (h : o.Alike R o') (events : List Event) : (o.after events).Alike R (o'.after events) where
  result := h.result
  events := congrArg (events ++ ·) h.events
  state := h.state

variable {R : σ → τ → Prop} {allowed : Call → Prop} {d : Directory σ} {e : Directory τ}

/-- Lookups have the same replies where each one has. -/
theorem Directory.lookUp_congr {realm : String} {queries : List RoleQuery}
    (h : ∀ q ∈ queries, ∀ s t, R s t →
      (d.answer (.role realm q) s).1 = (e.answer (.role realm q) t).1 ∧
        R (d.answer (.role realm q) s).2 (e.answer (.role realm q) t).2) {s : σ} {t : τ}
    (hst : R s t) :
    (d.lookUp realm queries s).1 = (e.lookUp realm queries t).1 ∧
      R (d.lookUp realm queries s).2 (e.lookUp realm queries t).2 := by
  induction queries generalizing s t with
  | nil => exact ⟨rfl, hst⟩
  | cons q rest ih =>
    obtain ⟨hreply, hnext⟩ := h q List.mem_cons_self s t hst
    obtain ⟨hreplies, hlast⟩ := ih (fun q' h' => h q' (List.mem_cons_of_mem q h')) hnext
    simp only [Directory.lookUp]
    exact ⟨by rw [hreply, hreplies], hlast⟩

namespace Program

/-- A program that makes only allowed calls goes the same way on directories that are alike. -/
theorem run_alike (h : Directory.Alike R allowed d e) {p : Program α} (hp : p.MakesOnly allowed)
    {s : σ} {t : τ} (hst : R s t) : (p.run d s).Alike R (p.run e t) := by
  induction p generalizing s t with
  | done a => exact ⟨rfl, rfl, hst⟩
  | fail problem => exact ⟨rfl, rfl, hst⟩
  | ask c next ih =>
    obtain ⟨hreply, hnext⟩ := h c s t hp.1 hst
    simp only [run]
    rw [← hreply]
    cases (d.answer c s).1 with
    | error failure => exact ⟨rfl, rfl, hnext⟩
    | ok a => exact (ih a (hp.2 a) hnext).after _
  | gather realm queries next ih =>
    obtain ⟨hreplies, hnext⟩ :=
      Directory.lookUp_congr (fun q hq s t => h (.role realm q) s t (hp.1 q hq)) hst
    simp only [run]
    rw [← hreplies]
    exact (ih _ (hp.2 _) hnext).after _

end Program

end GroupRoles
