import GroupRoles.Directory.Problem

/-!
# Programs that call a directory

A program says which calls to make and goes on with their answers, whatever directory gives
them; a failed call ends it. Role lookups may be made together: all are issued before the
program goes on with their replies.

`Program.run` runs a program on a directory and records every call with its reply.
-/

namespace GroupRoles

/-- A program with result `α`. -/
inductive Program (α : Type) : Type where
  | done (a : α)
  | fail (problem : Problem)
  /-- Makes a call and goes on with its answer. -/
  | ask (c : Call) (next : c.Answer → Program α)
  /-- Makes all the lookups and goes on with the replies in order. -/
  | gather (realm : String) (queries : List RoleQuery)
      (next : List (Except Failure (Option Role)) → Program α)

/-- A directory with states `σ`. -/
structure Directory (σ : Type) where
  answer : (c : Call) → σ → Reply c × σ

/-- How a run ended, what was called, and the directory's state afterwards. -/
structure Outcome (σ α : Type) where
  result : Except Problem α
  events : List Event
  state : σ

namespace Program

variable {α β σ : Type}

/-- Goes on with the result of a program. -/
def bind : Program α → (α → Program β) → Program β
  | done a, f => f a
  | fail problem, _ => fail problem
  | ask c next, f => ask c fun a => (next a).bind f
  | gather realm queries next, f => gather realm queries fun replies => (next replies).bind f

instance : Monad Program where
  pure := done
  bind := bind

/-- Makes one call. -/
def call (c : Call) : Program c.Answer :=
  ask c done

/-- Goes on unless a check fails. -/
def check (r : Except ReferenceFault α) : Program α :=
  match r with
  | .ok a => done a
  | .error fault => fail (.reference fault)

end Program

namespace Directory

variable {σ : Type}

/-- Makes lookups that are issued together. Each is answered as a whole before the next one, in the
order in which they are issued: that several may be under way at once is left out. For a directory
whose state the lookups do not change this makes no difference. -/
def lookUp (d : Directory σ) (realm : String) :
    List RoleQuery → σ → List (Except Failure (Option Role)) × σ
  | [], s => ([], s)
  | q :: rest, s =>
    let (reply, s) := d.answer (.role realm q) s
    let (replies, s) := lookUp d realm rest s
    (reply :: replies, s)

/-- Lookups with their replies. -/
def lookUpEvents (realm : String) (queries : List RoleQuery)
    (replies : List (Except Failure (Option Role))) : List Event :=
  (queries.zip replies).map fun (q, reply) => ⟨.role realm q, reply⟩

end Directory

namespace Outcome

variable {σ α : Type}

/-- The same outcome with more events in front. -/
def after (events : List Event) (o : Outcome σ α) : Outcome σ α :=
  { o with events := events ++ o.events }

/-- The calls that were made, in order. -/
def calls (o : Outcome σ α) : List Call :=
  o.events.map Event.call

end Outcome

namespace Program

variable {α σ : Type}

/-- Runs a program on a directory. -/
def run (d : Directory σ) : Program α → σ → Outcome σ α
  | done a, s => ⟨.ok a, [], s⟩
  | fail problem, s => ⟨.error problem, [], s⟩
  | ask c next, s =>
    let (reply, s) := d.answer c s
    match reply with
    | .ok a => (run d (next a) s).after [⟨c, .ok a⟩]
    | .error failure => ⟨.error (.directory failure), [⟨c, .error failure⟩], s⟩
  | gather realm queries next, s =>
    let (replies, s) := d.lookUp realm queries s
    (run d (next replies) s).after (Directory.lookUpEvents realm queries replies)

end Program

end GroupRoles
