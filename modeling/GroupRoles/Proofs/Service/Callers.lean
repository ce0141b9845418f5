import GroupRoles.Proofs.Service.Token
import Mathlib.Data.Finset.Basic

/-!
# Callers that want a token at the same time

Each caller takes the steps of `token` one at a time, in any order with the steps of the others: it
looks at the kept token under a lock that it shares with other readers, and if it finds none that it
can use it takes the lock alone, looks again, asks, and stores what is granted. A step that the lock
does not allow yet leaves everything as it is. Between any two steps the network may change in any
way.

A caller that is alone ends with the result and in the session of `token` (`run_alone`).
-/

namespace GroupRoles.Service

open Http

variable {ι σ : Type} [DecidableEq ι]

/-! ## The lock -/

/-- Who holds the lock: any number of readers, or one caller alone. -/
inductive Lock (ι : Type) where
  | shared (readers : Finset ι)
  | alone (writer : ι)

namespace Lock

/-- The lock with one more reader, unless somebody holds it alone. -/
def share? (i : ι) : Lock ι → Option (Lock ι)
  | shared readers => some (shared (insert i readers))
  | alone _ => none

/-- The lock held alone, if nobody holds it. -/
def take? (i : ι) : Lock ι → Option (Lock ι)
  | shared readers => if readers = ∅ then some (alone i) else none
  | alone _ => none

/-- The lock after one who held it gave it back. -/
def giveBack (i : ι) : Lock ι → Lock ι
  | shared readers => shared (readers.erase i)
  | alone _ => shared ∅

end Lock

/-! ## Callers -/

/-- How far a caller is. -/
inductive Stage where
  | arrived
  /-- It shares the lock, to look at the kept token. -/
  | reading
  /-- It found no token that it can use, and wants the lock alone. -/
  | waiting
  /-- It holds the lock alone, to look again. -/
  | holding
  /-- It found none again, and is about to ask. -/
  | asking
  /-- Its request for a token is in flight. -/
  | awaiting
  /-- It was granted a token, which is not stored yet. -/
  | granted (g : Granted)
  | returned (result : Except ServiceFault String)
deriving DecidableEq

/-- A session and its callers. -/
structure Crowd (ι σ : Type) where
  session : Session σ
  stage : ι → Stage := fun _ => .arrived
  lock : Lock ι := .shared ∅
  /-- Who sent a request for a token, in order. -/
  asked : List ι := []

namespace Crowd

/-- The crowd with a caller in another stage. -/
def put (c : Crowd ι σ) (i : ι) (stage : Stage) : Crowd ι σ :=
  { c with stage := Function.update c.stage i stage }

/-- The crowd after a caller gave the lock back. -/
def leave (c : Crowd ι σ) (i : ι) (stage : Stage) : Crowd ι σ :=
  { c with lock := c.lock.giveBack i }.put i stage

/-- The next step of a caller. -/
def step (n : Network σ) (s : Service) (grant : PasswordGrant) (i : ι) (c : Crowd ι σ) :
    Crowd ι σ :=
  match c.stage i with
  | .arrived =>
    match c.lock.share? i with
    | some lock => { c with lock }.put i .reading
    | none => c
  | .reading =>
    match (look n).run.run c.session with
    | (.ok (some text), session) => { c with session }.leave i (.returned (.ok text))
    | (.ok none, session) => { c with session }.leave i .waiting
    | (.error fault, session) => { c with session }.leave i (.returned (.error fault))
  | .waiting =>
    match c.lock.take? i with
    | some lock => { c with lock }.put i .holding
    | none => c
  | .holding =>
    match (look n).run.run c.session with
    | (.ok (some text), session) => { c with session }.leave i (.returned (.ok text))
    | (.ok none, session) => { c with session }.put i .asking
    | (.error fault, session) => { c with session }.leave i (.returned (.error fault))
  | .asking => { c with asked := c.asked ++ [i] }.put i .awaiting
  | .awaiting =>
    -- the answer is what the network gives when it arrives
    match (ask n s grant).run.run c.session with
    | (.ok g, session) => { c with session }.put i (.granted g)
    | (.error fault, session) => { c with session }.leave i (.returned (.error fault))
  | .granted g =>
    let (result, session) := (store n g).run.run c.session
    { c with session }.leave i (.returned result)
  | .returned _ => c

/-- What happens next: a caller takes a step, or the network changes meanwhile. -/
inductive Move (ι σ : Type) where
  | step (i : ι)
  | elapse (network : σ)

/-- The crowd after a move. -/
def move (n : Network σ) (s : Service) (grant : PasswordGrant) (c : Crowd ι σ) :
    Move ι σ → Crowd ι σ
  | .step i => c.step n s grant i
  | .elapse network => { c with session := { c.session with network } }

/-- The crowd after moves in order. -/
def run (n : Network σ) (s : Service) (grant : PasswordGrant) (c : Crowd ι σ)
    (moves : List (Move ι σ)) : Crowd ι σ :=
  moves.foldl (move n s grant) c

/-! ## A caller alone -/

@[simp] theorem stage_put (c : Crowd ι σ) (i : ι) (stage : Stage) : (c.put i stage).stage i = stage := by
  simp only [put, Function.update_self]

@[simp] theorem stage_leave (c : Crowd ι σ) (i : ι) (stage : Stage) :
    (c.leave i stage).stage i = stage :=
  stage_put _ i stage

theorem stage_put_of_ne (c : Crowd ι σ) {i j : ι} (h : j ≠ i) (stage : Stage) :
    (c.put i stage).stage j = c.stage j := by
  simp only [put, Function.update_of_ne h]

theorem stage_leave_of_ne (c : Crowd ι σ) {i j : ι} (h : j ≠ i) (stage : Stage) :
    (c.leave i stage).stage j = c.stage j :=
  stage_put_of_ne _ h stage

/-- A caller returned with a result and in a session. -/
def Returned (c : Crowd ι σ) (i : ι) (r : Except ServiceFault String × Session σ) : Prop :=
  c.stage i = .returned r.1 ∧ c.session = r.2

section

variable (n : Network σ) (s : Service) (grant : PasswordGrant) (i : ι)

/-- A number of steps of one caller. -/
def steps (k : Nat) : List (Move ι σ) :=
  List.replicate k (.step i)

variable {n s grant i} {c : Crowd ι σ}

theorem run_steps_succ (k : Nat) :
    c.run n s grant (steps i (k + 1)) = (c.step n s grant i).run n s grant (steps i k) :=
  rfl

theorem step_of_returned {result : Except ServiceFault String}
    (h : c.stage i = .returned result) : c.step n s grant i = c := by
  unfold step
  rw [h]

theorem returned_of_returned {result : Except ServiceFault String}
    (h : c.stage i = .returned result) (k : Nat) :
    (c.run n s grant (steps i k)).Returned i (result, c.session) := by
  induction k with
  | zero => exact ⟨h, rfl⟩
  | succ k ih =>
    rw [run_steps_succ, step_of_returned h]
    exact ih

theorem returned_of_granted {g : Granted} (h : c.stage i = .granted g) (k : Nat) :
    (c.run n s grant (steps i (k + 1))).Returned i ((store n g).run.run c.session) := by
  rw [run_steps_succ, step, h]
  exact returned_of_returned (stage_leave _ i _) k

theorem returned_of_awaiting (h : c.stage i = .awaiting) (k : Nat) :
    (c.run n s grant (steps i (k + 2))).Returned i
      ((ask n s grant >>= store n).run.run c.session) := by
  rw [run_steps_succ, step, h, Step.run_bind]
  cases hask : (ask n s grant).run.run c.session with
  | mk result session =>
    cases result with
    | error fault => exact returned_of_returned (stage_leave _ i _) (k + 1)
    | ok g => exact returned_of_granted (stage_put _ i _) k

theorem returned_of_asking (h : c.stage i = .asking) (k : Nat) :
    (c.run n s grant (steps i (k + 3))).Returned i
      ((ask n s grant >>= store n).run.run c.session) := by
  rw [run_steps_succ, step, h]
  exact returned_of_awaiting (stage_put _ i _) k

/-- What is left of `token` once the lock is held alone. -/
def renewed (n : Network σ) (s : Service) (grant : PasswordGrant) : Step σ ServiceFault String := do
  match ← look n with
  | some text => pure text
  | none => do
    let g ← ask n s grant
    store n g

theorem returned_of_holding (h : c.stage i = .holding) (k : Nat) :
    (c.run n s grant (steps i (k + 4))).Returned i ((renewed n s grant).run.run c.session) := by
  rw [run_steps_succ, step, h, renewed, Step.run_bind]
  cases hlook : (look n : Step σ ServiceFault _).run.run c.session with
  | mk result session =>
    match result with
    | .error fault => exact returned_of_returned (stage_leave _ i _) (k + 3)
    | .ok (some text) => exact returned_of_returned (stage_leave _ i _) (k + 3)
    | .ok none => exact returned_of_asking (stage_put _ i _) k

theorem returned_of_waiting (h : c.stage i = .waiting) (hfree : c.lock = .shared ∅) (k : Nat) :
    (c.run n s grant (steps i (k + 5))).Returned i ((renewed n s grant).run.run c.session) := by
  rw [run_steps_succ, step, h, hfree]
  exact returned_of_holding (stage_put _ i _) k

theorem token_eq (hs : s.credentials = .password grant) :
    token n s = (look n >>= fun found => match found with
      | some text => pure text
      | none => renewed n s grant) := by
  unfold token
  rw [hs]
  rfl

theorem returned_of_reading (hs : s.credentials = .password grant) (h : c.stage i = .reading)
    (hlock : c.lock = .shared (insert i ∅)) (k : Nat) :
    (c.run n s grant (steps i (k + 6))).Returned i ((token n s).run.run c.session) := by
  rw [run_steps_succ, step, h, token_eq hs, Step.run_bind]
  cases hlook : (look n : Step σ ServiceFault _).run.run c.session with
  | mk result session =>
    match result with
    | .error fault => exact returned_of_returned (stage_leave _ i _) (k + 5)
    | .ok (some text) => exact returned_of_returned (stage_leave _ i _) (k + 5)
    | .ok none =>
      have hfree : c.lock.giveBack i = .shared ∅ := by
        rw [hlock, Lock.giveBack, Finset.erase_insert (Finset.notMem_empty i)]
      refine returned_of_waiting (stage_leave _ i _) ?_ k
      exact hfree

/-- A caller that is alone takes its steps to the result and the session of `token`. -/
theorem run_alone (hs : s.credentials = .password grant) (a : Session σ) :
    (({ session := a } : Crowd ι σ).run n s grant (steps i 7)).Returned i
      ((token n s).run.run a) :=
  returned_of_reading (c := ({ session := a, lock := .shared (insert i ∅) } : Crowd ι σ).put i
    .reading) hs (stage_put _ i _) rfl 0

end

end Crowd

end GroupRoles.Service
