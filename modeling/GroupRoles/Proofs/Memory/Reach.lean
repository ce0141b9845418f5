import GroupRoles.Directory.Memory
import Mathlib.Data.List.Basic
import Mathlib.Data.Multiset.AddSub
import Mathlib.Logic.Relation

/-!
# The roles that a group has

A role of a catalog links to the roles that the first entry of its id includes. `Reached` and
`Inherited` say which ids links lead to from some roots, in any number of steps and in one or
more. A search for them works through a list of pending ids, one in each round of a `Worklist`.
The main results are

* `Worklist.Run.add_work_le`: every search ends, whatever cycles the links have;
* `mem_reach_iff`: the worklist of `reach` finds exactly the reached ids;
* `mem_effective`: a group has exactly the roles of the catalog that are reached from those
  mapped to it;
* `mem_available`: available are exactly the roles of the catalog that are not mapped to it;
* `expansion_exact`: all of this of one group, in the order of the catalog.
-/

namespace GroupRoles.Memory

open Relation

variable {catalog : List CatalogEntry} {roots roots' : List String} {id member : String}

/-! ## Links -/

/-- The first entry of an id includes another one. -/
def Link (catalog : List CatalogEntry) (id member : String) : Prop :=
  member ∈ membersOf catalog id

/-- Links lead to an id from one of the roots, which may be the id itself. -/
def Reached (catalog : List CatalogEntry) (roots : List String) (id : String) : Prop :=
  ∃ root ∈ roots, ReflTransGen (Link catalog) root id

/-- One or more links lead to an id from one of the roots. -/
def Inherited (catalog : List CatalogEntry) (roots : List String) (id : String) : Prop :=
  ∃ root ∈ roots, TransGen (Link catalog) root id

theorem Reached.of_mem (h : id ∈ roots) : Reached catalog roots id :=
  ⟨id, h, .refl⟩

theorem Reached.link (h : Reached catalog roots id) (hlink : Link catalog id member) :
    Reached catalog roots member := by
  obtain ⟨root, hroot, hpath⟩ := h
  exact ⟨root, hroot, hpath.tail hlink⟩

theorem Reached.mono (h : Reached catalog roots id) (hsub : ∀ root ∈ roots, root ∈ roots') :
    Reached catalog roots' id := by
  obtain ⟨root, hroot, hpath⟩ := h
  exact ⟨root, hsub root hroot, hpath⟩

/-- What is reached is a root or inherited. -/
theorem reached_iff : Reached catalog roots id ↔ id ∈ roots ∨ Inherited catalog roots id := by
  constructor
  · rintro ⟨root, hroot, hpath⟩
    rcases reflTransGen_iff_eq_or_transGen.mp hpath with rfl | hpath
    · exact .inl hroot
    · exact .inr ⟨root, hroot, hpath⟩
  · rintro (hroot | ⟨root, hroot, hpath⟩)
    · exact .of_mem hroot
    · exact ⟨root, hroot, hpath.to_reflTransGen⟩

/-! ## The worklist -/

/-- The ids that were reached so far, and those that are still to be looked at. -/
structure Worklist where
  reached : List String
  pending : Multiset String

namespace Worklist

/-- A round takes any one of the pending ids. It drops one that was reached before; another one is
reached, and the ids that it includes become pending. -/
inductive Step (catalog : List CatalogEntry) : Worklist → Worklist → Prop where
  | drop {reached : List String} {rest : Multiset String} {id : String} (hold : id ∈ reached) :
      Step catalog ⟨reached, id ::ₘ rest⟩ ⟨reached, rest⟩
  | visit {reached : List String} {rest : Multiset String} {id : String} (hnew : id ∉ reached) :
      Step catalog ⟨reached, id ::ₘ rest⟩ ⟨id :: reached, membersOf catalog id + rest⟩

/-- A number of rounds. -/
inductive Run (catalog : List CatalogEntry) : Nat → Worklist → Worklist → Prop where
  | none (w : Worklist) : Run catalog 0 w w
  | cons {n : Nat} {w w' w'' : Worklist} (hstep : Step catalog w w')
      (hrun : Run catalog n w' w'') : Run catalog (n + 1) w w''

/-- The pending ids and the links that may still make others pending. -/
def work (catalog : List CatalogEntry) (w : Worklist) : Nat :=
  openLinks w.reached catalog + w.pending.card

/-- An id was reached or is pending. -/
def Holds (w : Worklist) (id : String) : Prop :=
  id ∈ w.reached ∨ id ∈ w.pending

/-- What every round keeps: all ids are reached from the roots, and nothing on the way from the
roots is lost. -/
structure Invariant (catalog : List CatalogEntry) (roots : List String) (w : Worklist) : Prop where
  sound : ∀ id, w.Holds id → Reached catalog roots id
  roots : ∀ root ∈ roots, w.Holds root
  links : ∀ id ∈ w.reached, ∀ member, Link catalog id member → w.Holds member

variable {w w' : Worklist} {n : Nat}

/-- There is a next round as long as an id is pending. -/
theorem exists_step_iff : (∃ w', Step catalog w w') ↔ w.pending ≠ 0 := by
  constructor
  · rintro ⟨w', hstep⟩
    cases hstep <;> exact Multiset.cons_ne_zero
  · obtain ⟨reached, pending⟩ := w
    intro hpending
    obtain ⟨id, hid⟩ := Multiset.exists_mem_of_ne_zero hpending
    obtain ⟨rest, rfl⟩ := Multiset.exists_cons_of_mem hid
    by_cases hold : id ∈ reached
    · exact ⟨_, .drop hold⟩
    · exact ⟨_, .visit hold⟩

/-! ### Every run ends -/

/-- A round leaves less work. -/
theorem Step.work_lt (h : Step catalog w w') : w'.work catalog < w.work catalog := by
  cases h with
  | drop hold =>
    simp only [work, Multiset.card_cons]
    omega
  | @visit reached rest id hnew =>
    -- the ids that become pending are paid for by the links that the new id closes
    have hopen : reached.contains id = false := by simpa using hnew
    have hclosed := membersOf_length_add_le catalog hopen
    simp only [work, Multiset.card_cons, Multiset.card_add, Multiset.coe_card]
    omega

/-- There are no more rounds than there was work. -/
theorem Run.add_work_le (h : Run catalog n w w') : n + w'.work catalog ≤ w.work catalog := by
  induction h with
  | none w => exact (Nat.zero_add _).le
  | cons hstep hrun ih =>
    have hless := hstep.work_lt
    omega

theorem openLinks_nil (catalog : List CatalogEntry) :
    openLinks [] catalog = (catalog.flatMap CatalogEntry.members).length := by
  induction catalog with
  | nil => rfl
  | cons entry rest ih =>
    rw [openLinks, ih, List.flatMap_cons, List.length_append]
    rfl

/-! ### What a run finds -/

/-- A round loses no id: one that is dropped was reached before. -/
theorem Step.holds (h : Step catalog w w') (hid : w.Holds id) : w'.Holds id := by
  cases h with
  | @drop reached rest taken hold =>
    rcases hid with hid | hid
    · exact .inl hid
    · rcases Multiset.mem_cons.mp hid with rfl | hid
      · exact .inl hold
      · exact .inr hid
  | @visit reached rest taken hnew =>
    rcases hid with hid | hid
    · exact .inl (List.mem_cons_of_mem taken hid)
    · rcases Multiset.mem_cons.mp hid with rfl | hid
      · exact .inl List.mem_cons_self
      · exact .inr (Multiset.mem_add.mpr (.inr hid))

theorem Invariant.start (catalog : List CatalogEntry) (roots : List String) :
    Invariant catalog roots ⟨[], roots⟩ where
  sound _ hid := .of_mem (hid.resolve_left List.not_mem_nil)
  roots _ hroot := .inr hroot
  links _ hid := absurd hid List.not_mem_nil

theorem Invariant.step (h : Invariant catalog roots w) (hstep : Step catalog w w') :
    Invariant catalog roots w' := by
  have hroots : ∀ root ∈ roots, w'.Holds root := fun root hroot => hstep.holds (h.roots root hroot)
  have hlinks : ∀ id ∈ w.reached, ∀ member, Link catalog id member → w'.Holds member :=
    fun id hid member hlink => hstep.holds (h.links id hid member hlink)
  -- what is left to show is that the ids that are new in the round are sound and have their links
  cases hstep with
  | drop hold =>
    exact ⟨fun id hid => h.sound id (hid.imp_right Multiset.mem_cons_of_mem), hroots, hlinks⟩
  | @visit reached rest taken hnew =>
    have htaken : Reached catalog roots taken :=
      h.sound taken (.inr (Multiset.mem_cons_self taken rest))
    refine ⟨?_, hroots, ?_⟩
    · rintro id (hid | hid)
      · rcases List.mem_cons.mp hid with rfl | hid
        · exact htaken
        · exact h.sound id (.inl hid)
      · rcases Multiset.mem_add.mp hid with hlink | hid
        · exact htaken.link hlink
        · exact h.sound id (.inr (Multiset.mem_cons_of_mem hid))
    · intro id hid member hlink
      rcases List.mem_cons.mp hid with rfl | hid
      · exact .inr (Multiset.mem_add.mpr (.inl hlink))
      · exact hlinks id hid member hlink

theorem Invariant.run (h : Invariant catalog roots w) (hrun : Run catalog n w w') :
    Invariant catalog roots w' := by
  induction hrun with
  | none w => exact h
  | cons hstep hrun ih => exact ih (h.step hstep)

/-- When nothing is pending, exactly what links lead to was reached. -/
theorem Invariant.mem_reached_iff (h : Invariant catalog roots w) (hdone : w.pending = 0) :
    id ∈ w.reached ↔ Reached catalog roots id := by
  have hreached : ∀ {other}, w.Holds other → other ∈ w.reached := by
    intro other hother
    unfold Holds at hother
    rw [hdone] at hother
    exact hother.resolve_right (Multiset.notMem_zero other)
  constructor
  · exact fun hid => h.sound id (.inl hid)
  · rintro ⟨root, hroot, hpath⟩
    induction hpath with
    | refl => exact hreached (h.roots root hroot)
    | tail _ hlink ih => exact hreached (h.links _ ih _ hlink)

/-- To take the ids in the order of a list is a run to the end. -/
theorem exists_run_reach (catalog : List CatalogEntry) (reached pending : List String) :
    ∃ n, Run catalog n ⟨reached, pending⟩ ⟨reach catalog reached pending, 0⟩ := by
  fun_induction reach catalog reached pending with
  | case1 reached => exact ⟨0, .none _⟩
  | case2 reached id rest hold ih =>
    obtain ⟨n, hrun⟩ := ih
    rw [← Multiset.cons_coe]
    exact ⟨n + 1, .cons (.drop (List.contains_iff_mem.mp hold)) hrun⟩
  | case3 reached id rest hnew ih =>
    obtain ⟨n, hrun⟩ := ih
    rw [← Multiset.coe_add] at hrun
    rw [← Multiset.cons_coe]
    exact ⟨n + 1, .cons (.visit fun hold => hnew (List.contains_iff_mem.mpr hold)) hrun⟩

end Worklist

/-- The worklist finds exactly what is reached from the roots. -/
theorem mem_reach_iff : id ∈ reach catalog [] roots ↔ Reached catalog roots id := by
  obtain ⟨n, hrun⟩ := Worklist.exists_run_reach catalog [] roots
  exact ((Worklist.Invariant.start catalog roots).run hrun).mem_reached_iff rfl

instance : Decidable (Reached catalog roots id) :=
  decidable_of_iff _ mem_reach_iff

/-! ## The roles of a group -/

namespace Realm

variable {realm : Realm} {group : String} {scope : Scope} {role : Role}

/-- The roles of a scope. -/
def roles (realm : Realm) (scope : Scope) : List Role :=
  (realm.catalog scope).map CatalogEntry.role

theorem mem_select {p : String → Bool} :
    role ∈ realm.select scope p ↔ role ∈ realm.roles scope ∧ p role.id = true := by
  unfold select roles
  constructor
  · intro h
    obtain ⟨entry, hentry, rfl⟩ := List.mem_map.mp h
    obtain ⟨hmem, hp⟩ := List.mem_filter.mp hentry
    exact ⟨List.mem_map_of_mem hmem, hp⟩
  · rintro ⟨h, hp⟩
    obtain ⟨entry, hmem, rfl⟩ := List.mem_map.mp h
    exact List.mem_map_of_mem (List.mem_filter.mpr ⟨hmem, hp⟩)

theorem mem_available :
    role ∈ realm.available group scope ↔
      role ∈ realm.roles scope ∧ role.id ∉ realm.direct group scope := by
  rw [available, mem_select, Bool.not_eq_true', List.contains_eq_mem, decide_eq_false_iff_not]

/-- The roles of a group are those that are reached, in the order of the catalog. -/
theorem effective_eq_filter (realm : Realm) (group : String) (scope : Scope) :
    realm.effective group scope = (realm.roles scope).filter fun role =>
      Reached (realm.catalog scope) (realm.direct group scope) role.id := by
  have hreached : ∀ id, (reach (realm.catalog scope) [] (realm.direct group scope)).contains id =
      decide (Reached (realm.catalog scope) (realm.direct group scope) id) := by
    intro id
    rw [List.contains_eq_mem]
    exact decide_eq_decide.mpr mem_reach_iff
  simp only [effective, select, roles, List.filter_map, hreached]
  rfl

theorem mem_effective :
    role ∈ realm.effective group scope ↔
      role ∈ realm.roles scope ∧
        Reached (realm.catalog scope) (realm.direct group scope) role.id := by
  rw [effective_eq_filter, List.mem_filter, decide_eq_true_iff]

/-- In a realm with the same catalog and more mapped roles, a group has the same roles and maybe
others between them. -/
theorem effective_sublist {other : Realm} (hcatalog : other.catalog scope = realm.catalog scope)
    (hdirect : ∀ id ∈ realm.direct group scope, id ∈ other.direct group scope) :
    (realm.effective group scope).Sublist (other.effective group scope) := by
  have hroles : other.roles scope = realm.roles scope := by rw [roles, roles, hcatalog]
  rw [effective_eq_filter, effective_eq_filter, hroles, hcatalog]
  apply List.monotone_filter_right
  intro role hreached
  exact decide_eq_true ((of_decide_eq_true hreached).mono hdirect)

/-- In a realm with the same catalog and the same mapped ids, in whatever order, a group has the
same roles. -/
theorem effective_congr_of_mem {other : Realm} (hcatalog : other.catalog scope = realm.catalog scope)
    (hdirect : ∀ id, id ∈ other.direct group scope ↔ id ∈ realm.direct group scope) :
    other.effective group scope = realm.effective group scope := by
  have hmore := effective_sublist hcatalog fun id hid => (hdirect id).mpr hid
  have hless := effective_sublist hcatalog.symm fun id hid => (hdirect id).mp hid
  exact hless.antisymm hmore

/-- A realm with the same catalog and the same mapped roles has the same roles for a group. -/
theorem effective_congr {other : Realm} (hcatalog : other.catalog scope = realm.catalog scope)
    (hdirect : other.direct group scope = realm.direct group scope) :
    other.effective group scope = realm.effective group scope := by
  simp only [effective, select, hcatalog, hdirect]

/-- The search for the roles of a group ends, whichever pending id a round takes: it has at most one
round for each mapped role and each link of the catalog, and when there is no next round, it has
reached exactly the ids that links lead to from the mapped ones. The roles of the group are the
roles of the catalog with such an id, in its order. So every role of the catalog is available or one
of these, and it is both exactly if links lead to it but it is not mapped itself. -/
theorem expansion_exact (realm : Realm) (group : String) (scope : Scope) :
    let catalog := realm.catalog scope
    let direct := realm.direct group scope
    let start : Worklist := ⟨[], direct⟩
    (∀ n w, Worklist.Run catalog n start w →
      n ≤ direct.length + (catalog.flatMap CatalogEntry.members).length ∧
      ((¬ ∃ w', Worklist.Step catalog w w') → ∀ id, id ∈ w.reached ↔ Reached catalog direct id)) ∧
    (∃ n, Worklist.Run catalog n start ⟨reach catalog [] direct, 0⟩) ∧
    realm.effective group scope =
      (realm.roles scope).filter (fun role => Reached catalog direct role.id) ∧
    ∀ role ∈ realm.roles scope,
      (role ∈ realm.available group scope ∨ role ∈ realm.effective group scope) ∧
      (role ∈ realm.available group scope ∧ role ∈ realm.effective group scope ↔
        Reached catalog direct role.id ∧ role.id ∉ direct) := by
  intro catalog direct start
  refine ⟨fun n w hrun => ⟨?_, fun hlast id => ?_⟩, Worklist.exists_run_reach catalog [] direct,
    effective_eq_filter realm group scope, fun role hrole => ⟨?_, ?_⟩⟩
  · have hwork : n + w.work catalog ≤ openLinks [] catalog + direct.length := hrun.add_work_le
    rw [Worklist.openLinks_nil] at hwork
    omega
  · have hdone : w.pending = 0 := not_not.mp (mt Worklist.exists_step_iff.mpr hlast)
    exact ((Worklist.Invariant.start catalog direct).run hrun).mem_reached_iff hdone
  · rw [mem_available, mem_effective]
    by_cases hdirect : role.id ∈ realm.direct group scope
    · exact .inr ⟨hrole, .of_mem hdirect⟩
    · exact .inl ⟨hrole, hdirect⟩
  · rw [mem_available, mem_effective]
    constructor
    · exact fun ⟨⟨_, hdirect⟩, _, hreached⟩ => ⟨hreached, hdirect⟩
    · exact fun ⟨hreached, hdirect⟩ => ⟨⟨hrole, hdirect⟩, hrole, hreached⟩

/-- A role that is mapped twice leads into a cycle and to a role that is no longer there. Of two
entries with one id the first tells the links, and both are roles of the group. -/
theorem expansion_exact_cycle :
    let realm : Realm :=
      { catalogs := ⟨[(none, [⟨⟨"r1", "reader"⟩, ["r2", "gone"]⟩, ⟨⟨"r2", "writer"⟩, ["r1", "r2"]⟩,
          ⟨⟨"r2", "editor"⟩, ["r3"]⟩, ⟨⟨"r3", "owner"⟩, []⟩])]⟩
        mappings := ⟨[(("g1", none), ["r1", "r1"])]⟩ }
    let writer : Role := ⟨"r2", "writer"⟩
    (∀ n w, Worklist.Run (realm.catalog none) n ⟨[], realm.direct "g1" none⟩ w → n ≤ 7) ∧
      realm.effective "g1" none = [⟨"r1", "reader"⟩, writer, ⟨"r2", "editor"⟩] ∧
      writer ∈ realm.available "g1" none ∧ writer ∈ realm.effective "g1" none := by
  intro realm writer
  obtain ⟨hruns, -, -, hroles⟩ := expansion_exact realm "g1" none
  have hrole : writer ∈ realm.roles none := by decide
  have hlink : Link (realm.catalog none) "r1" writer.id := by
    unfold Link
    decide
  have hreached : Reached (realm.catalog none) (realm.direct "g1" none) writer.id :=
    (Reached.of_mem List.mem_cons_self).link hlink
  have hdirect : writer.id ∉ realm.direct "g1" none := by decide
  exact ⟨fun n w hrun => (hruns n w hrun).1, by decide +kernel,
    (hroles writer hrole).2.mpr ⟨hreached, hdirect⟩⟩

end Realm

end GroupRoles.Memory
