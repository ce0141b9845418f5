import GroupRoles.Fulfil.Run
import GroupRoles.Proofs.Directory.Pool
import GroupRoles.Proofs.Memory.Batch

/-!
# Runs that share a store

Runs on one store read it, find their changes and make them in separate steps, and other runs may
come between. What they leave is still what their batches make, one after the other (`Made.run`);
and batches that do not contradict each other come to the same mapped roles in any order, so that
no run undoes what another one did (`no_update_lost`).
-/

namespace GroupRoles

/-- The batches that were made so far, in order. -/
def Pool.batches {ι σ α : Type} (pool : Pool ι σ α) : List Batch :=
  pool.log.filterMap fun made => made.2.batch?

/-- A move adds the batch that its call made, if it made one. -/
theorem Pool.batches_step {ι σ α : Type} [DecidableEq ι] (d : Directory σ) (pool : Pool ι σ α)
    (move : Move ι) :
    let made := ((pool.program move.who).step d move.position pool.state).event
    (pool.step d move).batches = pool.batches ++ (made.bind Event.batch?).toList := by
  simp only [batches, step, List.filterMap_append]
  cases ((pool.program move.who).step d move.position pool.state).event with
  | none => rfl
  | some e =>
    show _ ++ [(move.who, e)].filterMap (fun made => made.2.batch?) = _
    rw [List.filterMap_cons, List.filterMap_nil]
    cases hbatch : e.batch? with
    | none => simp only [hbatch, Option.bind_some, Option.toList_none]
    | some b => simp only [hbatch, Option.bind_some, Option.toList_some]

/-- Runs of requests that are about to start on one directory. -/
def Pool.ofRequests {ι σ : Type} (requests : ι → Request) (s : σ) : Pool ι σ Report where
  program i := (requests i).fulfil
  state := s

namespace Memory

/-! ## Batches one after the other -/

/-- The realms after batches in order. -/
def makeAll (batches : List Batch) (realms : Table String Realm) : Table String Realm :=
  batches.foldl (fun realms b => b.make realms) realms

/-- A batch with a goal for a realm, group and scope has a role with this id. -/
def Named (batches : List Batch) (goal : Goal) (site : String × String × Scope) (id : String) :
    Prop :=
  ∃ b ∈ batches, b.goal = goal ∧ b.site = site ∧ id ∈ b.ids

variable {batches : List Batch} {realm group : String} {scope : Scope} {id : String} {goal : Goal}
  {site : String × String × Scope}

theorem named_cons {b : Batch} :
    Named (b :: batches) goal site id ↔
      (b.goal = goal ∧ b.site = site ∧ id ∈ b.ids) ∨ Named batches goal site id := by
  simp only [Named, List.mem_cons, or_and_right, exists_or, exists_eq_left]

/-- Which ids are named hangs on which batches there are, not on their order. -/
theorem named_congr {others : List Batch} (h : ∀ b, b ∈ others ↔ b ∈ batches) :
    Named others goal site id ↔ Named batches goal site id :=
  exists_congr fun b => and_congr_left fun _ => h b

/-- Batches leave a mapping alone that none of them is for. -/
theorem direct_makeAll_of_ne (h : ∀ b ∈ batches, b.site ≠ (realm, group, scope))
    (realms : Table String Realm) :
    ((makeAll batches realms).get realm).direct group scope =
      (realms.get realm).direct group scope := by
  induction batches generalizing realms with
  | nil => rfl
  | cons b rest ih =>
    show ((makeAll rest (b.make realms)).get realm).direct group scope = _
    rw [ih (fun other hother => h other (List.mem_cons_of_mem b hother))]
    exact direct_make_of_ne (h b List.mem_cons_self)

/-- After batches that do not both map and unmap an id, it is mapped if it was mapped before or a
batch mapped it, and no batch unmapped it. -/
theorem mem_direct_makeAll
    (hapart : ¬ (Named batches .present (realm, group, scope) id ∧
      Named batches .absent (realm, group, scope) id)) (realms : Table String Realm) :
    id ∈ ((makeAll batches realms).get realm).direct group scope ↔
      (id ∈ (realms.get realm).direct group scope ∨
        Named batches .present (realm, group, scope) id) ∧
      ¬ Named batches .absent (realm, group, scope) id := by
  induction batches generalizing realms with
  | nil => simp [makeAll, Named]
  | cons b rest ih =>
    have hrest : ¬ (Named rest .present (realm, group, scope) id ∧
        Named rest .absent (realm, group, scope) id) := by
      rintro ⟨hadded, hremoved⟩
      exact hapart ⟨named_cons.mpr (.inr hadded), named_cons.mpr (.inr hremoved)⟩
    show id ∈ ((makeAll rest (b.make realms)).get realm).direct group scope ↔ _
    rw [ih hrest, named_cons, named_cons]
    rw [named_cons, named_cons] at hapart
    by_cases hsite : b.site = (realm, group, scope)
    · have hmade := @mem_direct_make realms _ _ _ id b hsite
      cases hgoal : b.goal with
      | present =>
        rw [hgoal] at hmade
        rw [hmade]
        simp only [hsite, reduceCtorEq, false_and, false_or, true_and]
        rw [or_assoc]
      | absent =>
        rw [hgoal] at hmade hapart
        rw [hmade]
        simp only [hsite, reduceCtorEq, false_and, false_or, true_and] at hapart ⊢
        -- an id that this batch unmaps, no later batch maps again
        have hkept : Named rest .present (realm, group, scope) id → id ∉ b.ids :=
          fun hadded hid => hapart ⟨hadded, .inl hid⟩
        rw [not_or, ← and_assoc]
        refine and_congr_left fun _ => ?_
        rw [or_and_right, and_iff_left_of_imp hkept]
    · rw [direct_make_of_ne hsite]
      simp only [hsite, false_and, and_false, false_or]

/-! ## Steps on a store -/

variable {ι α : Type}

/-- A step of a program leaves the realms as they were, unless its call made a batch. -/
theorem realms_step (position : Nat) (p : Program α) (store : Store) :
    (p.step Store.directory position store).state.realms =
      makeAll ((p.step Store.directory position store).event.bind Event.batch?).toList
        store.realms := by
  rcases p.step_cases Store.directory position store with ⟨hevent, hstate⟩ | ⟨c, hevent, hstate⟩
  · rw [hevent, hstate]
    rfl
  · rw [hevent, hstate]
    show (Store.answer c store).2.realms =
      makeAll (Event.batch? ⟨c, (Store.answer c store).1⟩).toList store.realms
    rw [Store.realms_answer_eq]
    cases Event.batch? ⟨c, (Store.answer c store).1⟩ with
    | none => rfl
    | some b => rfl

variable [DecidableEq ι] {pool : Pool ι Store α} {before : Table String Realm}

/-- The realms of a pool are what its batches made of the realms before. -/
def Made (before : Table String Realm) (pool : Pool ι Store α) : Prop :=
  pool.state.realms = makeAll pool.batches before

theorem Made.step (h : Made before pool) (move : Pool.Move ι) :
    Made before (pool.step Store.directory move) := by
  have hrealms := realms_step move.position (pool.program move.who) pool.state
  unfold Made
  rw [Pool.batches_step, makeAll, List.foldl_append]
  show ((pool.program move.who).step Store.directory move.position pool.state).state.realms = _
  rw [hrealms, h]
  rfl

theorem Made.run (h : Made before pool) (moves : List (Pool.Move ι)) :
    Made before (pool.run Store.directory moves) := by
  induction moves generalizing pool with
  | nil => exact h
  | cons move rest ih => exact ih (h.step move)

namespace Store

/-- Runs of any requests on one store, at any moment of any interleaving, the last one among them. A
mapping that no batch was for is as it was. Where no id was both mapped and unmapped, the ids that
are mapped are those that were mapped before and those of the batches that mapped roles, without
those of the batches that unmapped roles; and after any other moves that made the same batches, in
whichever order, they are the same. -/
theorem no_update_lost {ι : Type} [DecidableEq ι] (requests : ι → Request) (store : Store)
    (moves : List (Pool.Move ι)) (realm group : String) (scope : Scope) :
    let pool := (Pool.ofRequests requests store).run directory moves
    let site := (realm, group, scope)
    let before := (store.realms.get realm).direct group scope
    let after := (pool.state.realms.get realm).direct group scope
    ((∀ b ∈ pool.batches, b.site ≠ site) → after = before) ∧
    ((∀ id, ¬ (Named pool.batches .present site id ∧ Named pool.batches .absent site id)) →
      (∀ id, id ∈ after ↔
        (id ∈ before ∨ Named pool.batches .present site id) ∧
          ¬ Named pool.batches .absent site id) ∧
      ∀ moves', let other := (Pool.ofRequests requests store).run directory moves'
        (∀ b, b ∈ other.batches ↔ b ∈ pool.batches) →
          ∀ id, id ∈ (other.state.realms.get realm).direct group scope ↔ id ∈ after) := by
  intro pool site before after
  have hmade : ∀ moves, Made store.realms ((Pool.ofRequests requests store).run directory moves) :=
    Made.run rfl
  have hafter : after = ((makeAll pool.batches store.realms).get realm).direct group scope :=
    congrArg (fun realms => (Table.get realms realm).direct group scope) (hmade moves)
  refine ⟨fun hsite => ?_, fun hapart => ?_⟩
  · rw [hafter]
    exact direct_makeAll_of_ne hsite store.realms
  have hmem : ∀ id, id ∈ after ↔ (id ∈ before ∨ Named pool.batches .present site id) ∧
      ¬ Named pool.batches .absent site id := by
    intro id
    rw [hafter]
    exact mem_direct_makeAll (hapart id) store.realms
  refine ⟨hmem, fun moves' => ?_⟩
  intro other hsame id
  have hapart' : ¬ (Named other.batches .present site id ∧
      Named other.batches .absent site id) := by
    rw [named_congr hsame, named_congr hsame]
    exact hapart id
  have hother : other.state.realms = makeAll other.batches store.realms := hmade moves'
  rw [hother, mem_direct_makeAll hapart' store.realms, named_congr hsame, named_congr hsame]
  exact (hmem id).symm

/-- One run assigns a role, one removes another and the batch of a third is refused. All of them
read the store before any batch is made; whichever batch comes first, the group ends with the role
that was assigned and without the one that was removed. -/
theorem no_update_lost_three :
    let realm : Realm :=
      { catalogs := ⟨[(none, [⟨⟨"r1", "reader"⟩, []⟩, ⟨⟨"r2", "writer"⟩, []⟩,
          ⟨⟨"r3", "editor"⟩, []⟩])]⟩
        mappings := ⟨[(("g1", none), ["r2", "r3"])]⟩ }
    let store : Store := { realms := ⟨[("master", realm)]⟩ }
    let group : GroupKey := { id := some "g1" }
    let requests : Fin 3 → Request := List.get
      [{ group, roles := some [{ name := some "reader" }] },
        { group, goal := .absent, roles := some [{ name := some "writer" }] },
        { group, roles := some [{ id := some "r9", name := some "reader" }] }]
    let rounds (order : List (Fin 3)) : List (Pool.Move (Fin 3)) :=
      (List.replicate 6 order).flatten.map fun who => { who }
    let pool := (Pool.ofRequests requests store).run directory (rounds [0, 1, 2])
    let other := (Pool.ofRequests requests store).run directory (rounds [2, 1, 0])
    let mapped (pool : Pool (Fin 3) Store Report) : List String :=
      (pool.state.realms.get "master").direct "g1" none
    "r1" ∈ mapped pool ∧ "r2" ∉ mapped pool ∧ "r3" ∈ mapped pool ∧ "r9" ∉ mapped pool ∧
      ∀ id, id ∈ mapped other ↔ id ∈ mapped pool := by
  intro realm store group requests rounds pool other mapped
  let added : Batch := ⟨"master", .present, "g1", none, [⟨"r1", "reader"⟩]⟩
  let removed : Batch := ⟨"master", .absent, "g1", none, [⟨"r2", "writer"⟩]⟩
  have hbatches : pool.batches = [added, removed] := by decide +kernel
  have hswapped : other.batches = [removed, added] := by decide +kernel
  have hadded : ∀ id, Named pool.batches .present ("master", "g1", none) id ↔ id = "r1" := by
    intro id
    rw [hbatches]
    simp [Named, added, removed, Batch.site, Batch.ids, eq_comm]
  have hremoved : ∀ id, Named pool.batches .absent ("master", "g1", none) id ↔ id = "r2" := by
    intro id
    rw [hbatches]
    simp [Named, added, removed, Batch.site, Batch.ids, eq_comm]
  obtain ⟨hmem, hsame⟩ :=
    (no_update_lost requests store (rounds [0, 1, 2]) "master" "g1" none).2 fun id hboth => by
      have hfirst : id = "r1" := (hadded id).mp hboth.1
      have hsecond : id = "r2" := (hremoved id).mp hboth.2
      rw [hfirst] at hsecond
      exact absurd hsecond (by decide)
  have hmapped : ∀ id, id ∈ mapped pool ↔ (id ∈ ["r2", "r3"] ∨ id = "r1") ∧ ¬ id = "r2" := by
    intro id
    rw [← hadded, ← hremoved]
    exact hmem id
  have hboth : ∀ b, b ∈ other.batches ↔ b ∈ pool.batches := by
    intro b
    rw [hbatches, hswapped]
    exact (List.Perm.swap added removed []).mem_iff
  refine ⟨?_, ?_, ?_, ?_, hsame (rounds [2, 1, 0]) hboth⟩
  all_goals
    rw [hmapped]
    decide

end Store

end Memory

end GroupRoles
