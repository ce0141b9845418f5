import GroupRoles.Proofs.Memory.Mapping
import GroupRoles.Proofs.Memory.Value

/-!
# Batches

A changing call carries a batch of roles to map or to unmap. In memory a batch is made as a whole
or refused as a whole: `realms_answer_eq` says what any call leaves of the realms, so that nothing
later has to open the calls again. `change_atomic` says when a batch is refused, and that making it
is taking the union with a set of ids or the difference, in the order of what was mapped before
(`Batch.Leaves`).
-/

namespace GroupRoles

/-- What a changing call carries. -/
structure Batch where
  realm : String
  goal : Goal
  group : String
  scope : Scope
  roles : List Role
deriving DecidableEq

/-- The batch that an event made: its call carried the batch and was answered. -/
def Event.batch? : Event → Option Batch
  | ⟨.change realm goal group scope roles, .ok _⟩ => some ⟨realm, goal, group, scope, roles⟩
  | _ => none

namespace Batch

/-- The realm, the group and the scope whose mapping a batch is for. -/
def site (b : Batch) : String × String × Scope :=
  (b.realm, b.group, b.scope)

/-- The ids of the roles of a batch. -/
def ids (b : Batch) : List String :=
  b.roles.map Role.id

/-- The realms after a batch. -/
def make (b : Batch) (realms : Table String Memory.Realm) : Table String Memory.Realm :=
  realms.update b.realm fun r => r.change b.goal b.group b.scope b.roles

/-- The ids that are mapped where a batch is for. -/
def mapped (b : Batch) (realms : Table String Memory.Realm) : List String :=
  (realms.get b.realm).direct b.group b.scope

/-- What a batch leaves of the realms: its ids are mapped or unmapped as a set, and all else is as
it was. -/
structure Leaves (b : Batch) (before after : Table String Memory.Realm) : Prop where
  mem_iff : ∀ id, id ∈ b.mapped after ↔
    match b.goal with
    | .present => id ∈ b.mapped before ∨ id ∈ b.ids
    | .absent => id ∈ b.mapped before ∧ id ∉ b.ids
  order : (b.mapped after).filter (· ∈ b.mapped before) =
    (b.mapped before).filter (· ∈ b.mapped after)
  nodup : (b.mapped before).Nodup → (b.mapped after).Nodup
  count_eq_zero : b.goal = .absent → ∀ id ∈ b.ids, (b.mapped after).count id = 0
  mappings : ∀ realm group scope, b.site ≠ (realm, group, scope) →
    (after.get realm).direct group scope = (before.get realm).direct group scope
  others : ∀ name, after.has name = before.has name ∧
    (after.get name).groups = (before.get name).groups ∧
    (after.get name).clients = (before.get name).clients ∧
    (after.get name).catalogs = (before.get name).catalogs

end Batch

namespace Memory

variable {realms : Table String Realm} {realm group : String} {scope : Scope} {id : String}

/-! ## What a batch does -/

theorem shifted_make (b : Batch) (realms : Table String Realm) :
    Shifted b.realm b.goal b.group b.scope b.roles realms (b.make realms) :=
  .update realms

/-- A batch leaves every mapping alone that it is not for. -/
theorem direct_make_of_ne {b : Batch} (h : b.site ≠ (realm, group, scope)) :
    ((b.make realms).get realm).direct group scope = (realms.get realm).direct group scope := by
  have hshifted := shifted_make b realms
  by_cases hrealm : realm = b.realm
  · subst hrealm
    refine hshifted.others group scope fun hsite => h ?_
    cases hsite
    rfl
  · rw [hshifted.realms realm hrealm]

/-- A batch maps its roles or unmaps them, and leaves what else is mapped. -/
theorem mem_direct_make {b : Batch} (h : b.site = (realm, group, scope)) :
    id ∈ ((b.make realms).get realm).direct group scope ↔
      match b.goal with
      | .present => id ∈ (realms.get realm).direct group scope ∨ id ∈ b.ids
      | .absent => id ∈ (realms.get realm).direct group scope ∧ id ∉ b.ids := by
  cases h
  rw [(shifted_make b realms).direct]
  cases b.goal with
  | present => exact Realm.mem_changeIds_present
  | absent => exact Realm.mem_changeIds_absent

/-- Which ids are mapped after a batch hangs on its ids, not on their order or number. -/
theorem mem_direct_make_congr {b b' : Batch} (hsite : b'.site = b.site) (hgoal : b'.goal = b.goal)
    (hids : ∀ id, id ∈ b'.ids ↔ id ∈ b.ids) :
    id ∈ ((b'.make realms).get realm).direct group scope ↔
      id ∈ ((b.make realms).get realm).direct group scope := by
  by_cases h : b.site = (realm, group, scope)
  · rw [mem_direct_make h, mem_direct_make (hsite.trans h), hgoal, hids]
  · rw [direct_make_of_ne h, direct_make_of_ne (hsite ▸ h)]

/-- A batch for a realm that exists makes no realm. -/
theorem has_make {b : Batch} {realms : Table String Realm} (hrealm : realms.has b.realm = true)
    (name : String) : (b.make realms).has name = realms.has name := by
  unfold Table.has Batch.make
  rw [Table.get?_update]
  by_cases hname : name = b.realm
  · have hsome : (realms.get? b.realm).isSome = true := hrealm
    rw [if_pos hname, hname, hsome]
    rfl
  · rw [if_neg hname]

/-- A batch leaves the groups, the clients and the catalogs of all realms. -/
theorem get_make (b : Batch) (realms : Table String Realm) (name : String) :
    ((b.make realms).get name).groups = (realms.get name).groups ∧
      ((b.make realms).get name).clients = (realms.get name).clients ∧
      ((b.make realms).get name).catalogs = (realms.get name).catalogs := by
  have hshifted := shifted_make b realms
  by_cases hname : name = b.realm
  · rw [hname]
    exact ⟨hshifted.groups, hshifted.clients, hshifted.catalogs⟩
  · rw [hshifted.realms name hname]
    exact ⟨rfl, rfl, rfl⟩

/-- A batch that was made is not made again. -/
theorem make_make (b : Batch) (realms : Table String Realm) :
    b.make (b.make realms) = b.make realms := by
  have hchange : (fun r : Realm => r.change b.goal b.group b.scope b.roles) ∘
      (fun r : Realm => r.change b.goal b.group b.scope b.roles) =
        fun r : Realm => r.change b.goal b.group b.scope b.roles :=
    funext fun r => r.change_change b.goal b.group b.scope b.roles
  simp only [Batch.make, Table.update_update, hchange]

theorem mapped_make (b : Batch) (realms : Table String Realm) :
    b.mapped (b.make realms) = Realm.changeIds b.goal (b.mapped realms) b.roles :=
  (shifted_make b realms).direct

theorem leaves_make {b : Batch} {realms : Table String Realm} (hrealm : realms.has b.realm = true) :
    b.Leaves realms (b.make realms) where
  mem_iff _ := mem_direct_make rfl
  order := by
    rw [mapped_make]
    exact Realm.filter_mem_changeIds b.goal (b.mapped realms) b.roles
  nodup h := by
    rw [mapped_make]
    exact Realm.nodup_changeIds b.goal h b.roles
  count_eq_zero hgoal id hid := by
    rw [List.count_eq_zero, mapped_make, hgoal]
    exact fun hmapped => (Realm.mem_changeIds_absent.mp hmapped).2 hid
  mappings _ _ _ h := direct_make_of_ne h
  others name := ⟨has_make hrealm name, get_make b realms name⟩

/-! ## What a call does -/

namespace Store

/-- A call leaves the realms as they were, unless it made a batch. -/
theorem realms_answer_eq (c : Call) (store : Store) :
    (answer c store).2.realms =
      match Event.batch? ⟨c, (answer c store).1⟩ with
      | some b => b.make store.realms
      | none => store.realms := by
  cases c with
  | change realm goal group scope roles =>
    simp only [answer, change, realms_counted]
    cases store.realms.get? realm with
    | none => rfl
    | some r =>
      simp only
      cases r.unknown? scope roles with
      | none => rfl
      | some role => rfl
  | _ => rfl

/-- A change is made when its realm exists and the catalog knows the roles. -/
theorem answer_change_eq_ok_iff {goal : Goal} {roles : List Role} (store : Store) :
    (answer (.change realm goal group scope roles) store).1 = .ok () ↔
      store.realms.has realm = true ∧ (store.realms.get realm).Knows scope roles := by
  simp only [answer, change, realms_counted, Table.has, Table.get, ← Realm.unknown?_eq_none_iff]
  cases store.realms.get? realm with
  | none => exact iff_of_false (fun h => by cases h) (fun h => by cases h.1)
  | some r =>
    simp only [Option.getD_some, Option.isSome_some, true_and]
    cases r.unknown? scope roles with
    | none => exact iff_of_true rfl rfl
    | some role => exact iff_of_false (fun h => by cases h) (fun h => by cases h)

/-- A batch is refused exactly if its realm does not exist or the catalog lacks one of its ids, and
then nothing is different. Otherwise it is made, and a second time it is answered in the same way
and makes no difference. -/
theorem change_atomic (store : Store) (b : Batch) :
    let call : Call := .change b.realm b.goal b.group b.scope b.roles
    let reply := (directory.answer call store).1
    let after := (directory.answer call store).2
    ((∃ failure, reply = .error failure) ↔
      store.realms.has b.realm = false ∨
        ∃ id ∈ b.ids, id ∉ ((store.realms.get b.realm).roles b.scope).map Role.id) ∧
    ((∃ failure, reply = .error failure) → after.realms = store.realms) ∧
    (reply = .ok () →
      b.Leaves store.realms after.realms ∧
        (directory.answer call after).1 = .ok () ∧
        (directory.answer call after).2.realms = after.realms) := by
  intro call reply after
  have hafter : ∀ store : Store, (directory.answer call store).1 = .ok () →
      (directory.answer call store).2.realms = b.make store.realms := by
    intro store hok
    have hrealms := realms_answer_eq call store
    change (answer call store).1 = .ok () at hok
    rw [hok] at hrealms
    exact hrealms
  have hrefused : (∃ failure, reply = .error failure) ↔ reply ≠ .ok () := by
    cases reply with
    | ok a => exact iff_of_false (fun h => by cases h.choose_spec) (fun h => h rfl)
    | error failure => exact iff_of_true ⟨failure, rfl⟩ (fun h => by cases h)
  refine ⟨?_, ?_, fun hok => ?_⟩
  · have hknows : ¬ (store.realms.get b.realm).Knows b.scope b.roles ↔
        ∃ id ∈ b.ids, id ∉ ((store.realms.get b.realm).roles b.scope).map Role.id := by
      simp only [Realm.Knows, Batch.ids, List.mem_map, not_forall, exists_prop,
        exists_exists_and_eq_and]
    have hreply : reply = .ok () ↔ store.realms.has b.realm = true ∧
        (store.realms.get b.realm).Knows b.scope b.roles := answer_change_eq_ok_iff store
    rw [hrefused, ne_eq, hreply, not_and_or, Bool.not_eq_true, hknows]
  · rintro ⟨failure, herror⟩
    have hrealms := realms_answer_eq call store
    change (answer call store).1 = .error failure at herror
    rw [herror] at hrealms
    exact hrealms
  · have hmade : after.realms = b.make store.realms := hafter store hok
    obtain ⟨hrealm, hknows⟩ := (answer_change_eq_ok_iff store).mp hok
    -- the batch left the realms and the catalogs that it is checked against
    have hagain : (directory.answer call after).1 = .ok () := by
      refine (answer_change_eq_ok_iff after).mpr ⟨?_, ?_⟩
      · rw [hmade, has_make hrealm, hrealm]
      · rw [hmade, Realm.Knows, (shifted_make b store.realms).roles_eq]
        exact hknows
    refine ⟨?_, hagain, ?_⟩
    · rw [hmade]
      exact leaves_make hrealm
    · rw [hafter after hagain, hmade, make_make]

/-- A role that is mapped twice and named twice is removed, once and for all; a batch with one id
that the catalog lacks does not map the others either. -/
theorem change_atomic_reader :
    let realm : Realm :=
      { catalogs := ⟨[(none, [⟨⟨"r1", "reader"⟩, []⟩, ⟨⟨"r2", "writer"⟩, []⟩])]⟩
        mappings := ⟨[(("g1", none), ["r1", "r2", "r1"])]⟩ }
    let store : Store := { realms := ⟨[("master", realm)]⟩ }
    let removed : Batch :=
      ⟨"master", .absent, "g1", none, [⟨"r1", "reader"⟩, ⟨"r1", "reader"⟩]⟩
    let refused : Batch := ⟨"master", .present, "g2", none, [⟨"r2", "writer"⟩, ⟨"r9", "ghost"⟩]⟩
    let answer (b : Batch) (store : Store) :=
      directory.answer (.change b.realm b.goal b.group b.scope b.roles) store
    let after := (answer removed store).2
    removed.mapped after.realms = ["r2"] ∧ removed.Leaves store.realms after.realms ∧
      (answer removed after).2.realms = after.realms ∧
      (answer refused store).2.realms = store.realms := by
  intro realm store removed refused answer after
  obtain ⟨-, -, hmade⟩ := change_atomic store removed
  obtain ⟨hrefused, hsame, -⟩ := change_atomic store refused
  obtain ⟨hleaves, -, hagain⟩ := hmade rfl
  exact ⟨by decide, hleaves, hagain, hsame (hrefused.mpr (.inr ⟨"r9", by decide, by decide⟩))⟩

end Store

end Memory

end GroupRoles
