import GroupRoles.Directory.Program

/-!
# What a run of a program can look like

A run on a directory shows its calls with their replies, and how it ended. `Program.Trace` says
which of these a program allows, whatever the directory answers, so that a property of every run
on every directory is proved from the program alone:

* `trace_run`: a run on any directory is a trace of the program;
* `Trace.of_bind`: a trace of two programs in a row is a failed trace of the first, or a trace of
  the first followed by one of the second;
* `run_bind`: the same for a run, with the states in between;
* `run_keeps`: a run keeps what every answer of its directory keeps;
* `MakesOnly.of_mem`: the calls of a trace are among those that the program can come to;
* `FailsOnly.of_error`: so is its problem, unless the directory failed.
-/

namespace GroupRoles

namespace Directory

variable {σ : Type}

/-- Every lookup has a reply. -/
theorem length_lookUp (d : Directory σ) (realm : String) (queries : List RoleQuery) (s : σ) :
    (d.lookUp realm queries s).1.length = queries.length := by
  induction queries generalizing s with
  | nil => rfl
  | cons q rest ih => simp [lookUp, ih]

/-- A lookup failed exactly if its failure is among the replies. -/
theorem exists_failed_lookUpEvents_iff {realm : String} {queries : List RoleQuery}
    {replies : List (Except Failure (Option Role))} {failure : Failure}
    (h : replies.length = queries.length) :
    (∃ e ∈ lookUpEvents realm queries replies, e.reply = .error failure) ↔
      .error failure ∈ replies := by
  constructor
  · rintro ⟨e, he, hreply⟩
    obtain ⟨⟨q, reply⟩, hmem, rfl⟩ := List.mem_map.mp he
    obtain rfl : reply = .error failure := hreply
    exact (List.of_mem_zip hmem).2
  · intro hmem
    have hreplies : (queries.zip replies).map Prod.snd = replies := List.map_snd_zip (by omega)
    rw [← hreplies] at hmem
    obtain ⟨⟨q, reply⟩, hzip, rfl⟩ := List.mem_map.mp hmem
    exact ⟨_, List.mem_map_of_mem hzip, rfl⟩

end Directory

namespace Program

variable {α β γ σ : Type}

/-! ## Programs in a row -/

@[simp] theorem bind_eq (p : Program α) (f : α → Program β) : p >>= f = p.bind f := rfl

@[simp] theorem map_eq (f : α → β) (p : Program α) : f <$> p = p.bind fun a => done (f a) := rfl

theorem bind_assoc (p : Program α) (f : α → Program β) (g : β → Program γ) :
    (p.bind f).bind g = p.bind fun a => (f a).bind g := by
  induction p with
  | done a => rfl
  | fail problem => rfl
  | ask c next ih => exact congrArg (ask c) (funext ih)
  | gather realm queries next ih => exact congrArg (gather realm queries) (funext ih)

/-- A run of two programs in a row stops with the first one's problem, or goes on from its
result and state. -/
theorem run_bind (d : Directory σ) (p : Program α) (f : α → Program β) (s : σ) :
    (p.bind f).run d s =
      match (p.run d s).result with
      | .ok a => ((f a).run d (p.run d s).state).after (p.run d s).events
      | .error problem => ⟨.error problem, (p.run d s).events, (p.run d s).state⟩ := by
  induction p generalizing s with
  | done a => rfl
  | fail problem => rfl
  | ask c next ih =>
    simp only [bind, run]
    cases hreply : (d.answer c s).1 with
    | error failure => rfl
    | ok a =>
      simp only [ih a, Outcome.after]
      cases ((next a).run d (d.answer c s).2).result <;> simp
  | gather realm queries next ih =>
    simp only [bind, run, ih, Outcome.after]
    cases ((next (d.lookUp realm queries s).1).run d (d.lookUp realm queries s).2).result <;> simp

/-- What every answer of a directory keeps, lookups and runs keep. -/
theorem run_keeps {d : Directory σ} {I : σ → Prop} (hkeeps : ∀ c s, I s → I (d.answer c s).2)
    (p : Program α) {s : σ} (h : I s) : I (p.run d s).state := by
  have hlookUp : ∀ realm queries s, I s → I (d.lookUp realm queries s).2 := by
    intro realm queries
    induction queries with
    | nil => exact fun s h => h
    | cons q rest ih => exact fun s h => ih _ (hkeeps _ s h)
  induction p generalizing s with
  | done a => exact h
  | fail problem => exact h
  | ask c next ih =>
    simp only [run]
    have hnext := hkeeps c s h
    cases (d.answer c s).1 with
    | error failure => exact hnext
    | ok a => exact ih a hnext
  | gather realm queries next ih => exact ih _ (hlookUp realm queries s h)

/-! ## Traces -/

/-- The calls that a program may make, each with a reply that it may get, and the result that it
then has. -/
inductive Trace : Program α → List Event → Except Problem α → Prop where
  | done (a : α) : Trace (.done a) [] (.ok a)
  | fail (problem : Problem) : Trace (.fail problem) [] (.error problem)
  | answered {c : Call} {next : c.Answer → Program α} {a : c.Answer} {events : List Event}
      {result : Except Problem α} (rest : Trace (next a) events result) :
      Trace (.ask c next) (⟨c, .ok a⟩ :: events) result
  | refused {c : Call} {next : c.Answer → Program α} (failure : Failure) :
      Trace (.ask c next) [⟨c, .error failure⟩] (.error (.directory failure))
  | gathered {realm : String} {queries : List RoleQuery}
      {next : List (Except Failure (Option Role)) → Program α}
      {replies : List (Except Failure (Option Role))} {events : List Event}
      {result : Except Problem α} (hlen : replies.length = queries.length)
      (rest : Trace (next replies) events result) :
      Trace (.gather realm queries next) (Directory.lookUpEvents realm queries replies ++ events)
        result

/-- A run on any directory is a trace of its program. -/
theorem trace_run (d : Directory σ) (p : Program α) (s : σ) :
    Trace p (p.run d s).events (p.run d s).result := by
  induction p generalizing s with
  | done a => exact .done a
  | fail problem => exact .fail problem
  | ask c next ih =>
    simp only [run]
    cases (d.answer c s).1 with
    | error failure => exact .refused failure
    | ok a => exact .answered (ih a _)
  | gather realm queries next ih =>
    exact .gathered (d.length_lookUp realm queries s) (ih _ _)

namespace Trace

variable {events : List Event}

/-- A trace of two programs in a row: the first fails, or the second goes on with its result. -/
theorem of_bind {p : Program α} {f : α → Program β} {result : Except Problem β}
    (h : Trace (p.bind f) events result) :
    (∃ problem, Trace p events (.error problem) ∧ result = .error problem) ∨
      ∃ a before rest, Trace p before (.ok a) ∧ Trace (f a) rest result
        ∧ events = before ++ rest := by
  -- the first call of both is that of the first program, until it is done
  induction p generalizing events with
  | done a => exact .inr ⟨a, [], events, .done a, h, rfl⟩
  | fail problem =>
    cases h
    exact .inl ⟨problem, .fail problem, rfl⟩
  | ask c next ih =>
    cases h with
    | refused failure => exact .inl ⟨_, .refused failure, rfl⟩
    | answered rest =>
      rcases ih _ rest with ⟨problem, hp, hr⟩ | ⟨a, before, after, hp, hf, he⟩
      · exact .inl ⟨problem, .answered hp, hr⟩
      · exact .inr ⟨a, _, after, .answered hp, hf, by rw [he, List.cons_append]⟩
  | gather realm queries next ih =>
    cases h with
    | gathered hlen rest =>
      rcases ih _ rest with ⟨problem, hp, hr⟩ | ⟨a, before, after, hp, hf, he⟩
      · exact .inl ⟨problem, .gathered hlen hp, hr⟩
      · exact .inr ⟨a, _, after, .gathered hlen hp, hf, by rw [he, List.append_assoc]⟩

/-- A trace of two programs in a row with a value is one of each with a value. -/
theorem of_bind_ok {p : Program α} {f : α → Program β} {b : β}
    (h : Trace (p.bind f) events (.ok b)) :
    ∃ a before rest, Trace p before (.ok a) ∧ Trace (f a) rest (.ok b) ∧
      events = before ++ rest := by
  rcases of_bind h with ⟨problem, -, hfail⟩ | hboth
  · cases hfail
  · exact hboth

/-- A program that is done makes no call. -/
theorem of_done {a : α} {result : Except Problem α} (h : Trace (.done a) events result) :
    events = [] ∧ result = .ok a := by
  cases h
  exact ⟨rfl, rfl⟩

/-- A program that has failed makes no call. -/
theorem of_fail {problem : Problem} {result : Except Problem α}
    (h : Trace (.fail problem) events result) : events = [] ∧ result = .error problem := by
  cases h
  exact ⟨rfl, rfl⟩

/-- A call that a program goes on from fails, or is answered. -/
theorem of_call_bind {c : Call} {f : c.Answer → Program β} {result : Except Problem β}
    (h : Trace ((call c).bind f) events result) :
    (∃ failure, events = [⟨c, .error failure⟩] ∧ result = .error (.directory failure)) ∨
      ∃ a rest, Trace (f a) rest result ∧ events = ⟨c, .ok a⟩ :: rest := by
  cases h with
  | refused failure => exact .inl ⟨failure, rfl, rfl⟩
  | @answered _ _ a rest _ hrest => exact .inr ⟨a, rest, hrest, rfl⟩

/-- A function on the result leaves the calls as they are. -/
theorem of_map {g : α → β} {p : Program α} {result : Except Problem β}
    (h : Trace (p.bind fun a => .done (g a)) events result) :
    ∃ before, Trace p events before ∧ result = before.map g := by
  rcases of_bind h with ⟨problem, hp, rfl⟩ | ⟨a, before, rest, hp, hdone, rfl⟩
  · exact ⟨_, hp, rfl⟩
  · obtain ⟨rfl, rfl⟩ := hdone.of_done
    exact ⟨_, by rwa [List.append_nil], rfl⟩

end Trace

/-! ## Programs that make only certain calls -/

/-- All calls that a program can come to are allowed ones. -/
def MakesOnly (allowed : Call → Prop) : Program α → Prop
  | .done _ => True
  | .fail _ => True
  | .ask c next => allowed c ∧ ∀ a, (next a).MakesOnly allowed
  | .gather realm queries next =>
    (∀ q ∈ queries, allowed (.role realm q)) ∧ ∀ replies, (next replies).MakesOnly allowed

/-- A program that changes nothing. -/
def ReadOnly (p : Program α) : Prop :=
  p.MakesOnly fun c => c.isChange = false

variable {allowed : Call → Prop}

theorem MakesOnly.mono {p : Program α} {allowed' : Call → Prop} (hp : p.MakesOnly allowed)
    (h : ∀ c, allowed c → allowed' c) : p.MakesOnly allowed' := by
  induction p with
  | done a => trivial
  | fail problem => trivial
  | ask c next ih => exact ⟨h c hp.1, fun a => ih a (hp.2 a)⟩
  | gather realm queries next ih =>
    exact ⟨fun q hq => h _ (hp.1 q hq), fun replies => ih replies (hp.2 replies)⟩

theorem MakesOnly.bind {p : Program α} {f : α → Program β} (hp : p.MakesOnly allowed)
    (hf : ∀ a, (f a).MakesOnly allowed) : (p.bind f).MakesOnly allowed := by
  induction p with
  | done a => exact hf a
  | fail problem => trivial
  | ask c next ih => exact ⟨hp.1, fun a => ih a (hp.2 a)⟩
  | gather realm queries next ih => exact ⟨hp.1, fun replies => ih replies (hp.2 replies)⟩

/-- The calls of a trace are among those that its program can come to. -/
theorem MakesOnly.of_mem {p : Program α} (hp : p.MakesOnly allowed) {events : List Event}
    {result : Except Problem α} (h : Trace p events result) : ∀ e ∈ events, allowed e.call := by
  induction h with
  | done a => exact fun e he => absurd he List.not_mem_nil
  | fail problem => exact fun e he => absurd he List.not_mem_nil
  | answered rest ih =>
    intro e he
    rcases List.mem_cons.mp he with rfl | he
    · exact hp.1
    · exact ih (hp.2 _) e he
  | refused failure =>
    intro e he
    rw [List.mem_singleton.mp he]
    exact hp.1
  | gathered hlen rest ih =>
    intro e he
    rcases List.mem_append.mp he with he | he
    · obtain ⟨x, hx, rfl⟩ := List.mem_map.mp he
      exact hp.1 x.1 (List.of_mem_zip hx).1
    · exact ih (hp.2 _) e he

/-! ## Programs that fail only in certain ways -/

/-- All problems that a program itself can end with are allowed ones. -/
def FailsOnly (allowed : Problem → Prop) : Program α → Prop
  | .done _ => True
  | .fail problem => allowed problem
  | .ask _ next => ∀ a, (next a).FailsOnly allowed
  | .gather _ _ next => ∀ replies, (next replies).FailsOnly allowed

theorem FailsOnly.bind {allowed : Problem → Prop} {p : Program α} {f : α → Program β}
    (hp : p.FailsOnly allowed) (hf : ∀ a, (f a).FailsOnly allowed) :
    (p.bind f).FailsOnly allowed := by
  induction p with
  | done a => exact hf a
  | fail problem => exact hp
  | ask c next ih => exact fun a => ih a (hp a)
  | gather realm queries next ih => exact fun replies => ih replies (hp replies)

/-- A trace ends with an allowed problem, unless the directory failed. -/
theorem FailsOnly.of_error {allowed : Problem → Prop} {p : Program α} (hp : p.FailsOnly allowed)
    {events : List Event} {result : Except Problem α} (h : Trace p events result)
    {problem : Problem} (hfail : result = .error problem) :
    allowed problem ∨ ∃ failure, problem = .directory failure := by
  induction h with
  | done a => cases hfail
  | fail other =>
    cases hfail
    exact .inl hp
  | answered rest ih => exact ih (hp _) hfail
  | refused failure =>
    cases hfail
    exact .inr ⟨failure, rfl⟩
  | gathered hlen rest ih => exact ih (hp _) hfail

end Program

end GroupRoles
