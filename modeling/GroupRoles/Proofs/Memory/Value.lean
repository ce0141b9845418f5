import GroupRoles.Directory.Memory
import GroupRoles.Proofs.Directory.Trace

/-!
# Reading a store

A program that changes nothing meets the same store at every call. `Store.value` is what it then
gives, computed without following the state, and `run_of_readOnly` says that this is its result
on the in-memory directory. What it gives depends on the realms of the store only.
-/

namespace GroupRoles.Memory.Store

variable {α β : Type}

/-- What a program gives when one store answers all its calls. -/
def value (store : Store) : Program α → Except Problem α
  | .done a => .ok a
  | .fail problem => .error problem
  | .ask c next =>
    match (answer c store).1 with
    | .ok a => store.value (next a)
    | .error failure => .error (.directory failure)
  | .gather realm queries next =>
    store.value (next (queries.map fun q => .ok ((store.realms.get realm).role? q)))

/-- The value of two programs in a row. -/
theorem value_bind (store : Store) (p : Program α) (f : α → Program β) :
    store.value (p.bind f) = (store.value p).bind fun a => store.value (f a) := by
  induction p with
  | done a => rfl
  | fail problem => rfl
  | ask c next ih =>
    rw [Program.bind, value, value]
    cases (answer c store).1 with
    | error failure => rfl
    | ok a => exact ih a
  | gather realm queries next ih => exact ih _

/-! ## Calls that change nothing -/

variable {store other : Store}

theorem realms_counted (isChange : Bool) : (store.counted isChange).realms = store.realms := rfl

theorem realms_answer {c : Call} (h : c.isChange = false) :
    (answer c store).2.realms = store.realms := by
  cases c with
  | change realm goal group scope roles => cases h
  | _ => rfl

/-- What a call that changes nothing is answered depends on the realms only. -/
theorem answer_congr {c : Call} (h : c.isChange = false) (hrealms : other.realms = store.realms) :
    (answer c other).1 = (answer c store).1 := by
  cases c with
  | change realm goal group scope roles => cases h
  | _ => simp only [answer, realms_counted, hrealms]

/-- Lookups are answered as the realm has it, and leave the realms alone. -/
theorem lookUp_eq (realm : String) (queries : List RoleQuery) (store : Store) :
    (directory.lookUp realm queries store).1 =
        queries.map (fun q => .ok ((store.realms.get realm).role? q)) ∧
      (directory.lookUp realm queries store).2.realms = store.realms := by
  induction queries generalizing store with
  | nil => exact ⟨rfl, rfl⟩
  | cons q rest ih =>
    obtain ⟨hreplies, hrealms⟩ := ih (store.counted false)
    rw [realms_counted] at hreplies hrealms
    have hanswer : directory.answer (.role realm q) store =
        (.ok ((store.realms.get realm).role? q), store.counted false) := rfl
    simp only [Directory.lookUp, hanswer, List.map_cons]
    exact ⟨by rw [hreplies], hrealms⟩

theorem value_congr {p : Program α} (hp : p.ReadOnly) (hrealms : other.realms = store.realms) :
    other.value p = store.value p := by
  induction p with
  | done a => rfl
  | fail problem => rfl
  | ask c next ih =>
    rw [value, value, answer_congr hp.1 hrealms]
    cases (answer c store).1 with
    | error failure => rfl
    | ok a => exact ih a (hp.2 a)
  | gather realm queries next ih =>
    rw [value, value, hrealms]
    exact ih _ (hp.2 _)

/-- A program that changes nothing has its value as its result, and leaves the realms alone. -/
theorem run_of_readOnly {p : Program α} (hp : p.ReadOnly) (store : Store) :
    (p.run directory store).result = store.value p ∧
      (p.run directory store).state.realms = store.realms := by
  induction p generalizing store with
  | done a => exact ⟨rfl, rfl⟩
  | fail problem => exact ⟨rfl, rfl⟩
  | ask c next ih =>
    have hstate : (answer c store).2.realms = store.realms := realms_answer hp.1
    simp only [Program.run, directory, value]
    cases (answer c store).1 with
    | error failure => exact ⟨rfl, hstate⟩
    | ok a =>
      -- what follows meets another store, which differs in its counts only
      obtain ⟨hresult, hrealms⟩ := ih a (hp.2 a) (answer c store).2
      exact ⟨hresult.trans (value_congr (hp.2 a) hstate), hrealms.trans hstate⟩
  | gather realm queries next ih =>
    obtain ⟨hreplies, hstate⟩ := lookUp_eq realm queries store
    simp only [Program.run, value, hreplies]
    obtain ⟨hresult, hrealms⟩ := ih _ (hp.2 _) (directory.lookUp realm queries store).2
    exact ⟨hresult.trans (value_congr (hp.2 _) hstate), hrealms.trans hstate⟩

end GroupRoles.Memory.Store
