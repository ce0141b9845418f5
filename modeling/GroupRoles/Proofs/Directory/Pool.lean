import GroupRoles.Directory.Program
import Mathlib.Data.List.InsertIdx
import Mathlib.Data.List.Perm.Basic
import Mathlib.Logic.Function.Basic

/-!
# Programs that share a directory

Programs that run at the same time on one directory take their steps one at a time, in any order
with the steps of the others. A step makes one call; of the lookups that a program makes together
any one may come next, and what the replies are used for does not hang on the order in which they
came.

A program that is alone with the directory, its lookups in their order, comes by its steps to the
outcome of `Program.run` (`exists_run_alone`). Where lookups do not change what the directory
replies to them, it goes on with the same replies in whatever order they are made
(`exists_run_together`).
-/

namespace GroupRoles

variable {ι σ α : Type}

/-- A program after a step: what is left of it, the call that it made, if any, and the state of the
directory. -/
structure Advance (σ α : Type) where
  program : Program α
  event : Option Event := none
  state : σ

/-- Positions at which so many lookups may be made one after the other, each counted among those
that are left. -/
inductive LookupOrder : Nat → List Nat → Prop where
  | nil : LookupOrder 0 []
  | cons {n position : Nat} {order : List Nat} (h : position ≤ n) (hrest : LookupOrder n order) :
      LookupOrder (n + 1) (position :: order)

namespace Directory

/-- What a directory replies to a lookup. -/
def reply (d : Directory σ) (realm : String) (s : σ) (q : RoleQuery) :
    Except Failure (Option Role) :=
  (d.answer (.role realm q) s).1

/-- Lookups in the realm do not change what is replied to lookups. -/
def Steady (d : Directory σ) (realm : String) (s : σ) : Prop :=
  ∀ queries, d.reply realm (d.lookUp realm queries s).2 = d.reply realm s

theorem Steady.reply_eq {d : Directory σ} {realm : String} {s : σ} (h : d.Steady realm s)
    (q : RoleQuery) : d.reply realm (d.answer (.role realm q) s).2 = d.reply realm s :=
  h [q]

theorem Steady.answer {d : Directory σ} {realm : String} {s : σ} (h : d.Steady realm s)
    (q : RoleQuery) : d.Steady realm (d.answer (.role realm q) s).2 := by
  intro queries
  rw [h.reply_eq q]
  exact h (q :: queries)

end Directory

namespace Program

/-- The next step of a program. Where lookups are made together, the one at a position is made, and
its reply goes to this position among the others; once no lookup is left, the program goes on. -/
def step (d : Directory σ) (position : Nat) : Program α → σ → Advance σ α
  | done a, s => { program := done a, state := s }
  | fail problem, s => { program := fail problem, state := s }
  | ask c next, s =>
    let (reply, s) := d.answer c s
    match reply with
    | .ok a => ⟨next a, some ⟨c, .ok a⟩, s⟩
    | .error failure => ⟨fail (.directory failure), some ⟨c, .error failure⟩, s⟩
  | gather _ [] next, s => { program := next [], state := s }
  | gather realm queries next, s =>
    match queries[position]? with
    | none => { program := gather realm queries next, state := s }
    | some q =>
      let (reply, s) := d.answer (.role realm q) s
      let rest := gather realm (queries.eraseIdx position) fun replies =>
        next (replies.insertIdx position reply)
      ⟨rest, some ⟨.role realm q, reply⟩, s⟩

/-- A step makes no call, or one whose answer it records and whose state it leaves. -/
theorem step_cases (d : Directory σ) (position : Nat) (p : Program α) (s : σ) :
    ((p.step d position s).event = none ∧ (p.step d position s).state = s) ∨
      ∃ c, (p.step d position s).event = some ⟨c, (d.answer c s).1⟩ ∧
        (p.step d position s).state = (d.answer c s).2 := by
  cases p with
  | done a => exact .inl ⟨rfl, rfl⟩
  | fail problem => exact .inl ⟨rfl, rfl⟩
  | ask c next =>
    refine .inr ⟨c, ?_⟩
    simp only [step]
    cases (d.answer c s).1 with
    | error failure => exact ⟨rfl, rfl⟩
    | ok a => exact ⟨rfl, rfl⟩
  | gather realm queries next =>
    cases queries with
    | nil => exact .inl ⟨rfl, rfl⟩
    | cons q rest =>
      simp only [step]
      cases (q :: rest)[position]? with
      | none => exact .inl ⟨rfl, rfl⟩
      | some query => exact .inr ⟨.role realm query, rfl, rfl⟩

theorem step_lookup (d : Directory σ) {realm : String} {queries : List RoleQuery} {position : Nat}
    (h : position < queries.length) (next : List (Except Failure (Option Role)) → Program α)
    (s : σ) :
    (gather realm queries next).step d position s =
      ⟨gather realm (queries.eraseIdx position) fun replies =>
          next (replies.insertIdx position (d.reply realm s queries[position])),
        some ⟨.role realm queries[position], d.reply realm s queries[position]⟩,
        (d.answer (.role realm queries[position]) s).2⟩ := by
  cases queries with
  | nil => cases h
  | cons q rest =>
    rw [step, List.getElem?_eq_getElem h]
    · rfl
    · exact fun hnil => List.cons_ne_nil q rest hnil

/-- The program that has ended with a result. -/
def ended : Except Problem α → Program α
  | .ok a => done a
  | .error problem => fail problem

end Program

/-- Programs that share a directory, its state, and who made which calls so far. -/
structure Pool (ι σ α : Type) where
  program : ι → Program α
  state : σ
  log : List (ι × Event) := []

namespace Pool

/-- What happens next: a program takes a step, by a lookup at a position if it has several. -/
structure Move (ι : Type) where
  who : ι
  position : Nat := 0

variable [DecidableEq ι] {d : Directory σ} {pool : Pool ι σ α} {i : ι}

/-- The pool after a move. -/
def step (d : Directory σ) (pool : Pool ι σ α) (move : Move ι) : Pool ι σ α :=
  let after := (pool.program move.who).step d move.position pool.state
  { program := Function.update pool.program move.who after.program
    state := after.state
    log := pool.log ++ (after.event.map (move.who, ·)).toList }

/-- The pool after moves in order. -/
def run (d : Directory σ) (pool : Pool ι σ α) (moves : List (Move ι)) : Pool ι σ α :=
  moves.foldl (step d) pool

/-! ## A program alone -/

/-- The pool after one of its programs came to an outcome. -/
def settle (pool : Pool ι σ α) (i : ι) (o : Outcome σ α) : Pool ι σ α :=
  { program := Function.update pool.program i (.ended o.result)
    state := o.state
    log := pool.log ++ o.events.map (i, ·) }

/-- Alone, by any number of its own steps, a program of a pool comes to the outcome of its run. -/
def Completes (d : Directory σ) (i : ι) (p : Program α) : Prop :=
  ∀ pool : Pool ι σ α, pool.program i = p → ∃ moves : List (Move ι),
    (∀ move ∈ moves, move.who = i) ∧ pool.run d moves = pool.settle i (p.run d pool.state)

/-- A program that has ended with a result is where its run leads. -/
theorem completes_ended (d : Directory σ) (i : ι) (result : Except Problem α) :
    Completes d i (.ended result) := by
  intro pool hp
  refine ⟨[], fun move hmove => absurd hmove List.not_mem_nil, ?_⟩
  have hrun : (Program.ended result).run d pool.state = ⟨result, [], pool.state⟩ := by
    cases result <;> rfl
  rw [hrun, settle, ← hp, Function.update_eq_self, List.map_nil, List.append_nil]
  rfl

/-- A program completes if what its next step leaves of it does, in every state. -/
theorem Completes.of_step {p : Program α}
    (hstep : ∀ s, Completes d i (p.step d 0 s).program ∧ p.run d s =
      ((p.step d 0 s).program.run d (p.step d 0 s).state).after (p.step d 0 s).event.toList) :
    Completes d i p := by
  intro pool hp
  obtain ⟨hrest, hrun⟩ := hstep pool.state
  have hnext : pool.step d ⟨i, 0⟩ =
      { program := Function.update pool.program i (p.step d 0 pool.state).program
        state := (p.step d 0 pool.state).state
        log := pool.log ++ (p.step d 0 pool.state).event.toList.map (i, ·) } := by
    simp only [step, hp]
    cases (p.step d 0 pool.state).event <;> rfl
  have hleft : (pool.step d ⟨i, 0⟩).program i = (p.step d 0 pool.state).program := by
    simp only [hnext, Function.update_self]
  obtain ⟨moves, hwho, hmoves⟩ := hrest (pool.step d ⟨i, 0⟩) hleft
  refine ⟨⟨i, 0⟩ :: moves, ?_, ?_⟩
  · intro move hmove
    rcases List.mem_cons.mp hmove with rfl | hmove
    · rfl
    · exact hwho move hmove
  · show (pool.step d ⟨i, 0⟩).run d moves = _
    rw [hmoves, hrun, hnext]
    simp only [settle, Outcome.after, Function.update_idem, List.map_append, List.append_assoc]

theorem completes_gather {realm : String} {queries : List RoleQuery}
    {next : List (Except Failure (Option Role)) → Program α}
    (h : ∀ replies, Completes d i (next replies)) :
    Completes d i (.gather realm queries next) := by
  induction queries generalizing next with
  | nil => exact .of_step fun s => ⟨h [], rfl⟩
  | cons q rest ih =>
    refine .of_step fun s => ⟨?_, ?_⟩
    · exact ih fun replies => h (replies.insertIdx 0 (d.answer (.role realm q) s).1)
    · rfl

/-- Alone with the directory, a program comes by its steps to the outcome of its run. -/
theorem exists_run_alone (d : Directory σ) (pool : Pool ι σ α) (i : ι) :
    ∃ moves : List (Move ι), (∀ move ∈ moves, move.who = i) ∧
      pool.run d moves = pool.settle i ((pool.program i).run d pool.state) := by
  have hcompletes : ∀ p : Program α, Completes d i p := by
    intro p
    induction p with
    | done a => exact completes_ended d i (.ok a)
    | fail problem => exact completes_ended d i (.error problem)
    | ask c next ih =>
      refine .of_step fun s => ?_
      simp only [Program.step, Program.run]
      cases (d.answer c s).1 with
      | error failure => exact ⟨completes_ended d i (.error (.directory failure)), rfl⟩
      | ok a => exact ⟨ih a, rfl⟩
    | gather realm queries next ih => exact completes_gather ih
  exact hcompletes (pool.program i) pool rfl

/-! ## Lookups in any order -/

/-- The moves of a program that makes its lookups at these positions and then goes on. -/
def together (i : ι) (order : List Nat) : List (Move ι) :=
  order.map (⟨i, ·⟩) ++ [⟨i, 0⟩]

theorem step_lookup {realm : String} {queries : List RoleQuery} {position : Nat}
    (h : position < queries.length) {next : List (Except Failure (Option Role)) → Program α}
    (hprogram : pool.program i = .gather realm queries next) :
    pool.step d ⟨i, position⟩ =
      { program := Function.update pool.program i
          (.gather realm (queries.eraseIdx position) fun replies =>
            next (replies.insertIdx position (d.reply realm pool.state queries[position])))
        state := (d.answer (.role realm queries[position]) pool.state).2
        log := pool.log ++
          [(i, ⟨.role realm queries[position], d.reply realm pool.state queries[position]⟩)] } := by
  simp only [step, hprogram, Program.step_lookup d h, Option.map_some, Option.toList_some]

/-- A program whose lookups change no replies makes each of them once, and goes on with the replies
in order, whatever the order of the lookups was. -/
theorem exists_run_together {realm : String} {queries : List RoleQuery}
    {next : List (Except Failure (Option Role)) → Program α} {order : List Nat}
    (horder : LookupOrder queries.length order) (hprogram : pool.program i = .gather realm queries next)
    (hsteady : d.Steady realm pool.state) :
    ∃ made : List Event, (made.map Event.call).Perm (queries.map (.role realm)) ∧
      (pool.run d (together i order)).log = pool.log ++ made.map (i, ·) ∧
      (pool.run d (together i order)).program i = next (queries.map (d.reply realm pool.state)) := by
  generalize hn : queries.length = n at horder
  induction horder generalizing queries next pool with
  | nil =>
    obtain rfl := List.eq_nil_of_length_eq_zero hn
    have hlast : pool.run d (together i []) =
        { pool with program := Function.update pool.program i (next []) } := by
      change pool.step d ⟨i, 0⟩ = _
      simp only [step, hprogram, Program.step, Option.map_none, Option.toList_none, List.append_nil]
    rw [hlast]
    exact ⟨[], .nil, (List.append_nil _).symm, Function.update_self i _ _⟩
  | @cons n position order hposition horder ih =>
    have hlt : position < queries.length := by omega
    have hleft : (queries.eraseIdx position).length = n := by
      rw [List.length_eraseIdx_of_lt hlt]
      omega
    have hstep := step_lookup (d := d) hlt hprogram
    have hnext : (pool.step d ⟨i, position⟩).program i =
        .gather realm (queries.eraseIdx position) fun replies =>
          next (replies.insertIdx position (d.reply realm pool.state queries[position])) := by
      rw [hstep]
      exact Function.update_self i _ _
    have hstate : (pool.step d ⟨i, position⟩).state =
        (d.answer (.role realm queries[position]) pool.state).2 := by rw [hstep]
    obtain ⟨made, hmade, hlog, hgoes⟩ := ih hnext (hstate ▸ hsteady.answer _) hleft
    have hrun : pool.run d (together i (position :: order)) =
        (pool.step d ⟨i, position⟩).run d (together i order) := rfl
    -- the reply goes to the place of its lookup among the others
    refine ⟨⟨.role realm queries[position], d.reply realm pool.state queries[position]⟩ :: made,
      ?_, ?_, ?_⟩
    · have hall := (List.getElem_cons_eraseIdx_perm hlt).map (Call.role realm)
      exact (hmade.cons _).trans hall
    · rw [hrun, hlog, hstep, List.map_cons, List.append_assoc, List.singleton_append]
    · rw [hrun, hgoes, hstate, hsteady.reply_eq, ← List.map_insertIdx,
        List.insertIdx_eraseIdx_getElem hlt]

end Pool

end GroupRoles
