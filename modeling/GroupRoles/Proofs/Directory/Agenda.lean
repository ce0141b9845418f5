import GroupRoles.Fulfil.Run
import GroupRoles.Proofs.Directory.Alike

/-!
# Errands one after the other

Whoever holds a directory makes single calls on it and runs requests. An `Agenda` says which errands
are done, each chosen by what came of those before. On directories that answer alike every agenda
comes to the same (`Agenda.run_alike`).
-/

namespace GroupRoles

variable {σ τ : Type}

/-- A single call, or the run of a request. -/
inductive Errand where
  | call (c : Call)
  | fulfil (request : Request)

namespace Errand

/-- What comes of an errand. -/
def Result : Errand → Type
  | call c => Reply c
  | fulfil _ => Except Problem Report

/-- Does an errand on a directory. -/
def perform (d : Directory σ) : (errand : Errand) → σ → errand.Result × σ
  | call c, s => d.answer c s
  | fulfil request, s => ((request.fulfil.run d s).result, (request.fulfil.run d s).state)

/-- An errand that was done, and what came of it. -/
structure Done where
  errand : Errand
  result : errand.Result

end Errand

/-- Errands, each chosen by what came of those before. -/
inductive Agenda where
  | finished
  | next (errand : Errand) (rest : errand.Result → Agenda)

namespace Agenda

/-- Does the errands of an agenda on a directory. -/
def run (d : Directory σ) : Agenda → σ → List Errand.Done × σ
  | finished, s => ([], s)
  | next errand rest, s =>
    let (result, s) := errand.perform d s
    let (others, s) := (rest result).run d s
    (⟨errand, result⟩ :: others, s)

/-- The agenda of a list of errands. -/
def ofList : List Errand → Agenda
  | [] => finished
  | errand :: rest => next errand fun _ => ofList rest

end Agenda

/-! ## On directories that answer alike -/

theorem Program.makesOnly_true {α : Type} (p : Program α) : p.MakesOnly fun _ => True := by
  induction p with
  | done a => trivial
  | fail problem => trivial
  | ask c next ih => exact ⟨trivial, ih⟩
  | gather realm queries next ih => exact ⟨fun _ _ => trivial, ih⟩

variable {R : σ → τ → Prop} {d : Directory σ} {e : Directory τ}

/-- An errand has the same result on directories that answer every call alike. -/
theorem Errand.perform_alike (h : Directory.Alike R (fun _ => True) d e) (errand : Errand) {s : σ}
    {t : τ} (hst : R s t) :
    (errand.perform d s).1 = (errand.perform e t).1 ∧
      R (errand.perform d s).2 (errand.perform e t).2 := by
  cases errand with
  | call c => exact h c s t trivial hst
  | fulfil request =>
    have hrun := Program.run_alike h request.fulfil.makesOnly_true hst
    exact ⟨hrun.result, hrun.state⟩

/-- An agenda comes to the same on directories that answer every call alike: the same errands are
chosen, with the same results. -/
theorem Agenda.run_alike (h : Directory.Alike R (fun _ => True) d e) (agenda : Agenda) {s : σ}
    {t : τ} (hst : R s t) :
    (agenda.run d s).1 = (agenda.run e t).1 ∧ R (agenda.run d s).2 (agenda.run e t).2 := by
  induction agenda generalizing s t with
  | finished => exact ⟨rfl, hst⟩
  | next errand rest ih =>
    obtain ⟨hresult, hstate⟩ := errand.perform_alike h hst
    obtain ⟨hothers, hlast⟩ := ih (errand.perform d s).1 hstate
    rw [hresult] at hothers hlast
    simp only [run]
    rw [hresult, hothers]
    exact ⟨rfl, hlast⟩

end GroupRoles
