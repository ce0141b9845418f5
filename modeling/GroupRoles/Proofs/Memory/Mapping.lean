import GroupRoles.Proofs.Memory.Reach

/-!
# What a change does to the mapped roles

Which ids are mapped after a change, and what the change leaves alone: every catalog, the other
groups and scopes, and the other realms. `Shifted` puts this together for two stores.
-/

namespace GroupRoles.Memory

variable {goal : Goal} {group other : String} {scope scope' : Scope} {roles : List Role}

namespace Realm

variable {direct : List String} {id : String}

/-- Assigning keeps what is mapped and maps the roles. -/
theorem mem_changeIds_present :
    id ∈ changeIds .present direct roles ↔ id ∈ direct ∨ id ∈ roles.map Role.id := by
  induction roles generalizing direct with
  | nil => simp [changeIds]
  | cons role rest ih =>
    -- what the first role leaves mapped is what the others start from
    have hfirst : id ∈ (if direct.contains role.id then direct else direct ++ [role.id]) ↔
        id ∈ direct ∨ id = role.id := by
      split
      · next hmapped =>
        have hmapped : role.id ∈ direct := List.contains_iff_mem.mp hmapped
        exact ⟨.inl, fun h => h.elim (fun h => h) fun h => h ▸ hmapped⟩
      · rw [List.mem_append, List.mem_singleton]
    rw [changeIds, ih, hfirst, List.map_cons, List.mem_cons, or_assoc]

/-- Assigning leaves what is mapped as it is and puts other ids behind it, each once. -/
theorem exists_changeIds_present (direct : List String) (roles : List Role) :
    ∃ added, changeIds .present direct roles = direct ++ added ∧ added.Nodup ∧
      ∀ id ∈ added, id ∉ direct := by
  induction roles generalizing direct with
  | nil =>
    exact ⟨[], (List.append_nil direct).symm, .nil, fun id hid => absurd hid List.not_mem_nil⟩
  | cons role rest ih =>
    rw [changeIds]
    split
    · exact ih direct
    · next hnew =>
      have hnew : role.id ∉ direct := fun hmapped => hnew (List.contains_iff_mem.mpr hmapped)
      obtain ⟨added, heq, hnodup, hadded⟩ := ih (direct ++ [role.id])
      have hother : ∀ id ∈ added, id ∉ direct ∧ id ≠ role.id := by
        intro id hid
        have hid := hadded id hid
        rwa [List.mem_append, List.mem_singleton, not_or] at hid
      refine ⟨role.id :: added, ?_, ?_, ?_⟩
      · rw [heq, List.append_assoc, List.singleton_append]
      · exact List.nodup_cons.mpr ⟨fun hid => (hother _ hid).2 rfl, hnodup⟩
      · intro id hid
        rcases List.mem_cons.mp hid with rfl | hid
        · exact hnew
        · exact (hother id hid).1

/-- Assigning roles that are mapped changes nothing. -/
theorem changeIds_present_eq_self (h : ∀ role ∈ roles, role.id ∈ direct) :
    changeIds .present direct roles = direct := by
  induction roles with
  | nil => rfl
  | cons role rest ih =>
    rw [List.forall_mem_cons] at h
    rw [changeIds]
    rw [if_pos (List.contains_iff_mem.mpr h.1)]
    exact ih h.2

/-- Removing leaves out the ids of the roles. -/
theorem changeIds_absent_eq_filter (direct : List String) (roles : List Role) :
    changeIds .absent direct roles = direct.filter (· ∉ roles.map Role.id) := by
  induction roles generalizing direct with
  | nil => simp [changeIds]
  | cons role rest ih =>
    rw [changeIds, ih, List.filter_filter]
    apply List.filter_congr
    intro id _
    rw [← Bool.decide_and, decide_eq_decide, List.map_cons, List.mem_cons, not_or, and_comm]

/-- Removing keeps what is mapped and is not among the roles. -/
theorem mem_changeIds_absent :
    id ∈ changeIds .absent direct roles ↔ id ∈ direct ∧ id ∉ roles.map Role.id := by
  rw [changeIds_absent_eq_filter, List.mem_filter, decide_eq_true_iff]

/-- Removing roles that are not mapped changes nothing. -/
theorem changeIds_absent_eq_self (h : ∀ role ∈ roles, role.id ∉ direct) :
    changeIds .absent direct roles = direct := by
  rw [changeIds_absent_eq_filter, List.filter_eq_self]
  intro id hid
  rw [decide_eq_true_iff, List.mem_map]
  rintro ⟨role, hrole, rfl⟩
  exact h role hrole hid

/-- Mapping or unmapping the same roles again changes nothing. -/
theorem changeIds_changeIds (goal : Goal) (direct : List String) (roles : List Role) :
    changeIds goal (changeIds goal direct roles) roles = changeIds goal direct roles := by
  cases goal with
  | present =>
    apply changeIds_present_eq_self
    intro role hrole
    exact mem_changeIds_present.mpr (.inr (List.mem_map_of_mem hrole))
  | absent =>
    apply changeIds_absent_eq_self
    intro role hrole hmapped
    exact (mem_changeIds_absent.mp hmapped).2 (List.mem_map_of_mem hrole)

/-- The ids that stay mapped keep their order. -/
theorem filter_mem_changeIds (goal : Goal) (direct : List String) (roles : List Role) :
    (changeIds goal direct roles).filter (· ∈ direct) =
      direct.filter (· ∈ changeIds goal direct roles) := by
  cases goal with
  | present =>
    obtain ⟨added, heq, -, hadded⟩ := exists_changeIds_present direct roles
    have hnone : added.filter (· ∈ direct) = [] := by
      rw [List.filter_eq_nil_iff]
      intro id hid hmapped
      exact hadded id hid (of_decide_eq_true hmapped)
    have hall : direct.filter (· ∈ direct ++ added) = direct := by
      rw [List.filter_eq_self]
      exact fun id hid => decide_eq_true (List.mem_append_left added hid)
    have hself : direct.filter (· ∈ direct) = direct := by
      rw [List.filter_eq_self]
      exact fun id hid => decide_eq_true hid
    rw [heq, List.filter_append, hnone, hall, hself, List.append_nil]
  | absent =>
    simp only [mem_changeIds_absent]
    rw [changeIds_absent_eq_filter, List.filter_filter]
    apply List.filter_congr
    intro id _
    rw [← Bool.decide_and]

/-- No id comes to be mapped twice. -/
theorem nodup_changeIds (goal : Goal) (h : direct.Nodup) (roles : List Role) :
    (changeIds goal direct roles).Nodup := by
  cases goal with
  | present =>
    obtain ⟨added, heq, hnodup, hadded⟩ := exists_changeIds_present direct roles
    rw [heq, List.nodup_append]
    refine ⟨h, hnodup, ?_⟩
    rintro id hid _ hnew rfl
    exact hadded id hnew hid
  | absent =>
    rw [changeIds_absent_eq_filter]
    exact h.filter _

variable {realm : Realm}

theorem direct_change_self :
    (realm.change goal group scope roles).direct group scope =
      changeIds goal (realm.direct group scope) roles :=
  Table.get_update_self _ _ _

theorem direct_change_of_ne (h : (other, scope') ≠ (group, scope)) :
    (realm.change goal group scope roles).direct other scope' = realm.direct other scope' :=
  Table.get_update_of_ne _ _ h

/-- Making a change again changes nothing. -/
theorem change_change (realm : Realm) (goal : Goal) (group : String) (scope : Scope)
    (roles : List Role) :
    (realm.change goal group scope roles).change goal group scope roles =
      realm.change goal group scope roles := by
  have hids : (fun direct => changeIds goal direct roles) ∘ (fun direct =>
      changeIds goal direct roles) = fun direct => changeIds goal direct roles :=
    funext fun direct => changeIds_changeIds goal direct roles
  simp only [change, Table.update_update, hids]

/-- The catalog of a scope has the ids of the roles. -/
def Knows (realm : Realm) (scope : Scope) (roles : List Role) : Prop :=
  ∀ role ∈ roles, role.id ∈ (realm.roles scope).map Role.id

theorem unknown?_eq_none_iff : realm.unknown? scope roles = none ↔ realm.Knows scope roles := by
  rw [unknown?, List.find?_eq_none, Knows]
  refine forall_congr' fun role => imp_congr_right fun _ => ?_
  rw [Bool.not_eq_true, Bool.not_eq_false', List.any_eq_true, Realm.roles, List.map_map,
    List.mem_map]
  refine exists_congr fun entry => and_congr_right fun _ => ?_
  rw [decide_eq_true_iff]
  rfl

end Realm

/-! ## Realms before and after -/

/-- The second realms are the first ones after a change: in one realm the roles of one group and
scope are mapped or unmapped, and all else is as it was. -/
structure Shifted (realm : String) (goal : Goal) (group : String) (scope : Scope)
    (roles : List Role) (before after : Table String Realm) : Prop where
  groups : (after.get realm).groups = (before.get realm).groups
  clients : (after.get realm).clients = (before.get realm).clients
  catalogs : (after.get realm).catalogs = (before.get realm).catalogs
  direct : (after.get realm).direct group scope =
    Realm.changeIds goal ((before.get realm).direct group scope) roles
  others : ∀ other scope', (other, scope') ≠ (group, scope) →
    (after.get realm).direct other scope' = (before.get realm).direct other scope'
  realms : ∀ name ≠ realm, after.get name = before.get name

namespace Shifted

variable {realm : String} {before after : Table String Realm}

/-- Nothing happens for no role. -/
theorem refl (before : Table String Realm) : Shifted realm goal group scope [] before before :=
  ⟨rfl, rfl, rfl, rfl, fun _ _ _ => rfl, fun _ _ => rfl⟩

theorem update (before : Table String Realm) :
    Shifted realm goal group scope roles before
      (before.update realm fun r => r.change goal group scope roles) := by
  have hself := Table.get_update_self before realm fun r => r.change goal group scope roles
  refine ⟨?_, ?_, ?_, ?_, fun other scope' hne => ?_,
    fun name hne => Table.get_update_of_ne _ _ hne⟩
  · rw [hself]
    rfl
  · rw [hself]
    rfl
  · rw [hself]
    rfl
  · rw [hself, Realm.direct_change_self]
  · rw [hself, Realm.direct_change_of_ne hne]

/-- Catalogs are left alone. -/
theorem catalog (h : Shifted realm goal group scope roles before after) (scope' : Scope) :
    (after.get realm).catalog scope' = (before.get realm).catalog scope' := by
  unfold Realm.catalog
  rw [h.catalogs]

theorem roles_eq (h : Shifted realm goal group scope roles before after) (scope' : Scope) :
    (after.get realm).roles scope' = (before.get realm).roles scope' := by
  unfold Realm.roles
  rw [h.catalog]

/-- Assigning roles takes none from the group. -/
theorem effective_sublist_of_present
    (h : Shifted realm .present group scope roles before after) :
    ((before.get realm).effective group scope).Sublist
      ((after.get realm).effective group scope) := by
  apply Realm.effective_sublist (h.catalog scope)
  intro id hid
  rw [h.direct, Realm.mem_changeIds_present]
  exact .inl hid

/-- Removing roles gives none to the group. -/
theorem effective_sublist_of_absent
    (h : Shifted realm .absent group scope roles before after) :
    ((after.get realm).effective group scope).Sublist
      ((before.get realm).effective group scope) := by
  apply Realm.effective_sublist (h.catalog scope).symm
  intro id hid
  rw [h.direct, Realm.mem_changeIds_absent] at hid
  exact hid.1

end Shifted

end GroupRoles.Memory
