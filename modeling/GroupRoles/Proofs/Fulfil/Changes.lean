import GroupRoles.Fulfil.Change

/-!
# The changes for a goal

Changes are found by name: a desired role is changed when the survey shows its name, and of the
desired roles with one name only the first is. `changes_first_shown` says this of any survey, and
what follows from it; `mem_changes_iff` says that all the desired roles that the survey shows are
changed when their names tell them apart.
-/

namespace GroupRoles

namespace Role

variable {seen : List String} {roles : List Role} {role : Role}

theorem hasName_iff {name : String} : hasName roles name = true ↔ name ∈ roles.map Role.name := by
  rw [hasName, List.any_eq_true, List.mem_map]
  simp only [decide_eq_true_eq]

/-- A role is among the first of their names when it comes first of its name, which was not
seen. -/
theorem mem_firstOfNames :
    role ∈ firstOfNames seen roles ↔
      role.name ∉ seen ∧ roles.find? (·.name = role.name) = some role := by
  induction roles generalizing seen with
  | nil => simp [firstOfNames]
  | cons first rest ih =>
    rw [firstOfNames]
    by_cases hname : first.name = role.name
    · -- the first role of the name is this one, or else the role is not among the first
      rw [List.find?_cons_of_pos (by simpa using hname), hname]
      split
      · next hseen =>
        have hseen : role.name ∈ seen := List.contains_iff_mem.mp hseen
        rw [ih]
        exact ⟨fun h => absurd hseen h.1, fun h => absurd hseen h.1⟩
      · next hseen =>
        have hseen : role.name ∉ seen := fun h => hseen (List.contains_iff_mem.mpr h)
        rw [List.mem_cons, ih, List.mem_cons]
        constructor
        · rintro (rfl | ⟨hnew, -⟩)
          · exact ⟨hseen, rfl⟩
          · exact absurd (.inl rfl) hnew
        · rintro ⟨-, hfirst⟩
          exact .inl (Option.some.inj hfirst).symm
    · rw [List.find?_cons_of_neg (by simpa using hname)]
      have hne : role ≠ first := fun h => hname (h ▸ rfl)
      split
      · exact ih
      · rw [List.mem_cons, ih, List.mem_cons, not_or, or_iff_right hne]
        exact and_congr_left fun _ => and_iff_right (Ne.symm hname)

/-- The first roles of their names are taken in order. -/
theorem firstOfNames_sublist (seen : List String) (roles : List Role) :
    (firstOfNames seen roles).Sublist roles := by
  induction roles generalizing seen with
  | nil => exact .slnil
  | cons role rest ih =>
    unfold firstOfNames
    split
    · exact (ih seen).cons role
    · exact (ih _).cons_cons role

/-- The first roles of their names have different names. -/
theorem nodup_firstOfNames (seen : List String) (roles : List Role) :
    ((firstOfNames seen roles).map Role.name).Nodup := by
  induction roles generalizing seen with
  | nil => exact List.nodup_nil
  | cons role rest ih =>
    unfold firstOfNames
    split
    · exact ih seen
    · rw [List.map_cons, List.nodup_cons]
      refine ⟨fun hname => ?_, ih _⟩
      obtain ⟨other, hother, he⟩ := List.mem_map.mp hname
      have hnew : other.name ∉ role.name :: seen := (mem_firstOfNames.mp hother).1
      rw [he] at hnew
      exact hnew List.mem_cons_self

/-- Of roles with different names every one of an unseen name is the first. -/
theorem firstOfNames_eq_filter {roles : List Role} (hnames : (roles.map Role.name).Nodup)
    (seen : List String) :
    firstOfNames seen roles = roles.filter fun role => role.name ∉ seen := by
  induction roles generalizing seen with
  | nil => rfl
  | cons role rest ih =>
    rw [List.map_cons, List.nodup_cons] at hnames
    obtain ⟨hfirst, hrest⟩ := hnames
    unfold firstOfNames
    split
    · next hseen =>
      have hseen : role.name ∈ seen := List.contains_iff_mem.mp hseen
      rw [ih hrest, List.filter_cons_of_neg (by simpa using hseen)]
    · next hnew =>
      have hnew : role.name ∉ seen := fun h => hnew (List.contains_iff_mem.mpr h)
      rw [ih hrest, List.filter_cons_of_pos (by simpa using hnew)]
      congr 1
      apply List.filter_congr
      intro other hother
      -- no other role has the name that is now seen
      have hne : other.name ≠ role.name := fun he => hfirst (he ▸ List.mem_map_of_mem hother)
      rw [decide_eq_decide, List.mem_cons, or_iff_right hne]

/-- Which of the seen names count are those that roles have. -/
theorem firstOfNames_congr {seen' : List String}
    (h : ∀ role ∈ roles, role.name ∈ seen ↔ role.name ∈ seen') :
    firstOfNames seen roles = firstOfNames seen' roles := by
  induction roles generalizing seen seen' with
  | nil => rfl
  | cons first rest ih =>
    rw [List.forall_mem_cons] at h
    obtain ⟨hfirst, hrest⟩ := h
    have hcontains : seen.contains first.name = seen'.contains first.name := by
      rw [List.contains_eq_mem, List.contains_eq_mem]
      exact decide_eq_decide.mpr hfirst
    unfold firstOfNames
    rw [hcontains, ih hrest]
    congr 2
    apply ih
    intro role hrole
    rw [List.mem_cons, List.mem_cons, hrest role hrole]

/-- Leaving out names and taking the first role of each name can be done in either order. -/
theorem firstOfNames_filter (p : String → Bool) (seen : List String) (roles : List Role) :
    firstOfNames seen (roles.filter fun role => p role.name) =
      (firstOfNames seen roles).filter fun role => p role.name := by
  induction roles generalizing seen with
  | nil => rfl
  | cons first rest ih =>
    rw [firstOfNames]
    by_cases hp : p first.name = true
    · rw [List.filter_cons, if_pos hp, firstOfNames]
      split
      · exact ih seen
      · rw [List.filter_cons, if_pos hp, ih]
    · rw [List.filter_cons, if_neg hp]
      split
      · exact ih seen
      · rw [List.filter_cons, if_neg hp, ← ih]
        -- that this name was seen does not matter to roles of other names
        apply firstOfNames_congr
        intro role hrole
        have hne : role.name ≠ first.name := by
          intro he
          rw [← he] at hp
          exact hp (List.mem_filter.mp hrole).2
        rw [List.mem_cons, or_iff_right hne]

/-- The first roles of their names come in the order in which their names come first. -/
theorem pairwise_firstOfNames (seen : List String) (roles : List Role) :
    (firstOfNames seen roles).Pairwise fun a b =>
      roles.findIdx (·.name = a.name) < roles.findIdx (·.name = b.name) := by
  induction roles generalizing seen with
  | nil => exact .nil
  | cons first rest ih =>
    -- every other name comes first one position later than in the rest
    have hlater : ∀ {role : Role}, role.name ≠ first.name →
        (first :: rest).findIdx (·.name = role.name) = rest.findIdx (·.name = role.name) + 1 := by
      intro role hne
      rw [List.findIdx_cons, decide_eq_false hne.symm]
      rfl
    have hrest : ∀ seen, first.name ∈ seen → (firstOfNames seen rest).Pairwise fun a b =>
        (first :: rest).findIdx (·.name = a.name) < (first :: rest).findIdx (·.name = b.name) := by
      intro seen hseen
      have hne : ∀ role ∈ firstOfNames seen rest, role.name ≠ first.name :=
        fun role hrole he => (mem_firstOfNames.mp hrole).1 (he ▸ hseen)
      refine (ih seen).imp_of_mem fun {a b} ha hb hlt => ?_
      rw [hlater (hne a ha), hlater (hne b hb)]
      exact Nat.succ_lt_succ hlt
    unfold firstOfNames
    split
    · next hseen => exact hrest seen (List.contains_iff_mem.mp hseen)
    · refine List.pairwise_cons.mpr ⟨fun role hrole => ?_, hrest _ List.mem_cons_self⟩
      have hnew : role.name ∉ first.name :: seen := (mem_firstOfNames.mp hrole).1
      rw [hlater fun he => hnew (he ▸ List.mem_cons_self), List.findIdx_cons,
        decide_eq_true rfl]
      exact Nat.succ_pos _

/-- Every name that was not seen has its first role. -/
theorem exists_mem_firstOfNames (h : role ∈ roles) (hnew : role.name ∉ seen) :
    ∃ first ∈ firstOfNames seen roles, first.name = role.name := by
  have hsome : (roles.find? (·.name = role.name)).isSome := by
    rw [List.find?_isSome]
    exact ⟨role, h, decide_eq_true rfl⟩
  obtain ⟨first, hfirst⟩ := Option.isSome_iff_exists.mp hsome
  have htest := List.find?_some hfirst
  have hname : first.name = role.name := of_decide_eq_true htest
  refine ⟨first, mem_firstOfNames.mpr ⟨?_, ?_⟩, hname⟩
  · rwa [hname]
  · rw [hname, hfirst]

end Role

namespace Goal

variable {goal : Goal} {survey : Survey} {desired : List Role} {role : Role}

/-- The changes are the first desired roles of all names without those that the survey does not
show. -/
theorem changes_eq_filter (goal : Goal) (survey : Survey) (desired : List Role) :
    goal.changes survey desired = (Role.firstOfNames [] desired).filter fun role =>
      Role.hasName (survey.concerned goal) role.name :=
  Role.firstOfNames_filter (Role.hasName (survey.concerned goal)) [] desired

/-- What is changed are the first desired roles of the names that the survey shows. -/
theorem mem_changes_iff_first :
    role ∈ goal.changes survey desired ↔
      role.name ∈ (survey.concerned goal).map Role.name ∧
        desired.find? (·.name = role.name) = some role := by
  rw [changes_eq_filter, List.mem_filter, Role.mem_firstOfNames, Role.hasName_iff,
    and_iff_right List.not_mem_nil, and_comm]

/-- What is changed is desired, and the survey shows its name. -/
theorem mem_changes (h : role ∈ goal.changes survey desired) :
    role ∈ desired ∧ role.name ∈ (survey.concerned goal).map Role.name := by
  obtain ⟨hname, hfirst⟩ := mem_changes_iff_first.mp h
  exact ⟨List.mem_of_find?_eq_some hfirst, hname⟩

/-- The desired roles that are changed keep their order. -/
theorem changes_sublist : (goal.changes survey desired).Sublist desired :=
  (Role.firstOfNames_sublist _ _).trans List.filter_sublist

/-- No two changes have the same name. -/
theorem nodup_changes : ((goal.changes survey desired).map Role.name).Nodup :=
  Role.nodup_firstOfNames _ _

/-- A survey that shows a goal no further role leads to no further change. -/
theorem mem_changes_of_concerned {other : Survey}
    (h : ∀ role ∈ other.concerned goal, role ∈ survey.concerned goal)
    (hrole : role ∈ goal.changes other desired) : role ∈ goal.changes survey desired := by
  obtain ⟨hname, hfirst⟩ := mem_changes_iff_first.mp hrole
  obtain ⟨shown, hshown, he⟩ := List.mem_map.mp hname
  exact mem_changes_iff_first.mpr ⟨List.mem_map.mpr ⟨shown, h shown hshown, he⟩, hfirst⟩

/-- A desired role whose name the survey shows has a role of its name changed. -/
theorem exists_mem_changes (hdesired : role ∈ desired)
    (hname : role.name ∈ (survey.concerned goal).map Role.name) :
    ∃ first ∈ goal.changes survey desired, first.name = role.name :=
  Role.exists_mem_firstOfNames
    (List.mem_filter.mpr ⟨hdesired, Role.hasName_iff.mpr hname⟩) nofun

/-- Where names tell roles apart, the changes are all the desired roles that the survey shows. -/
theorem mem_changes_iff {roles : List Role}
    (hnames : ∀ a ∈ roles, ∀ b ∈ roles, a.name = b.name → a = b)
    (hdesired : ∀ a ∈ desired, a ∈ roles) (hshown : ∀ a ∈ survey.concerned goal, a ∈ roles) :
    role ∈ goal.changes survey desired ↔ role ∈ desired ∧ role ∈ survey.concerned goal := by
  constructor
  · intro h
    obtain ⟨hmem, hname⟩ := mem_changes h
    obtain ⟨shown, hshow, he⟩ := List.mem_map.mp hname
    have : shown = role := hnames shown (hshown shown hshow) role (hdesired role hmem) he
    exact ⟨hmem, this ▸ hshow⟩
  · rintro ⟨hmem, hshow⟩
    obtain ⟨first, hfirst, he⟩ := exists_mem_changes hmem (List.mem_map_of_mem hshow)
    have : first = role :=
      hnames first (hdesired first (mem_changes hfirst).1) role (hdesired role hmem) he
    exact this ▸ hfirst

/-- Where names tell the desired roles apart, the changes are all of them whose name the survey
shows. -/
theorem mem_changes_of_apart (hapart : ∀ a ∈ desired, ∀ b ∈ desired, a.name = b.name → a = b) :
    role ∈ goal.changes survey desired ↔
      role ∈ desired ∧ role.name ∈ (survey.concerned goal).map Role.name := by
  refine ⟨mem_changes, fun ⟨hdesired, hname⟩ => ?_⟩
  obtain ⟨first, hfirst, he⟩ := exists_mem_changes hdesired hname
  have hsame : first = role := hapart first (mem_changes hfirst).1 role hdesired he
  exact hsame ▸ hfirst

/-- Surveys that show a goal the same names lead to the same changes. -/
theorem changes_congr {other : Survey} (h : ∀ name,
    name ∈ (other.concerned goal).map Role.name ↔ name ∈ (survey.concerned goal).map Role.name) :
    goal.changes other desired = goal.changes survey desired := by
  rw [changes_eq_filter, changes_eq_filter]
  apply List.filter_congr
  intro role _
  rw [Bool.eq_iff_iff, Role.hasName_iff, Role.hasName_iff, h]

/-- Of what is changed all is changed again. -/
theorem changes_changes (goal : Goal) (survey : Survey) (desired : List Role) :
    goal.changes survey (goal.changes survey desired) = goal.changes survey desired := by
  rw [changes_eq_filter _ _ (goal.changes survey desired),
    Role.firstOfNames_eq_filter nodup_changes, List.filter_filter, List.filter_eq_self]
  intro role hrole
  rw [Role.hasName_iff.mpr (mem_changes hrole).2]
  rfl

/-- The changes for a goal are some of the desired roles, in their order: for each desired name that
is shown, among the available roles to add roles and among the assigned ones to remove them, there
is one, the first desired role of the name as the caller gave it, and there is none for another
name. So they hang on nothing of a survey but the names that are shown, and of the changes all are
changed again. -/
theorem changes_first_shown (goal : Goal) (survey : Survey) (desired : List Role) :
    let shown : Survey → List Role := fun survey =>
      if goal = .present then survey.available else survey.assigned
    let changes := goal.changes survey desired
    changes.Sublist desired ∧
    (changes.map Role.name).Nodup ∧
    (∀ name, name ∈ changes.map Role.name ↔
      name ∈ desired.map Role.name ∧ name ∈ (shown survey).map Role.name) ∧
    (∀ role ∈ changes, desired.find? (·.name = role.name) = some role) ∧
    changes.Pairwise (fun a b =>
      desired.findIdx (·.name = a.name) < desired.findIdx (·.name = b.name)) ∧
    (∀ other : Survey, (∀ name, name ∈ (shown other).map Role.name ↔
        name ∈ (shown survey).map Role.name) →
      goal.changes other desired = changes) ∧
    goal.changes survey changes = changes := by
  intro shown changes
  have hshown : ∀ survey : Survey, shown survey = survey.concerned goal := by
    intro survey
    cases goal <;> rfl
  simp only [hshown]
  refine ⟨changes_sublist, nodup_changes, fun name => ⟨?_, ?_⟩,
    fun role hrole => (mem_changes_iff_first.mp hrole).2, ?_, fun other => changes_congr,
    changes_changes goal survey desired⟩
  · intro hname
    obtain ⟨role, hrole, rfl⟩ := List.mem_map.mp hname
    obtain ⟨hdesired, hmem⟩ := mem_changes hrole
    exact ⟨List.mem_map_of_mem hdesired, hmem⟩
  · rintro ⟨hname, hmem⟩
    obtain ⟨role, hdesired, rfl⟩ := List.mem_map.mp hname
    obtain ⟨first, hfirst, he⟩ := exists_mem_changes hdesired hmem
    exact he ▸ List.mem_map_of_mem hfirst
  · show (goal.changes survey desired).Pairwise _
    rw [changes_eq_filter]
    exact (Role.pairwise_firstOfNames [] desired).filter _

/-- Of three desired roles with one name the first is removed, or added, at its place; which roles
the survey lists with the name, how often and in which order does not matter, nor what the other
list holds. -/
theorem changes_first_shown_reader :
    let reader : Role := ⟨"r1", "reader"⟩
    let writer : Role := ⟨"r2", "writer"⟩
    let editor : Role := ⟨"r4", "editor"⟩
    let desired : List Role := [editor, reader, writer, ⟨"r3", "reader"⟩, reader]
    let survey : Survey := ⟨[⟨"r5", "editor"⟩, ⟨"r3", "reader"⟩], [writer, ⟨"r9", "reader"⟩]⟩
    let removable : Survey := ⟨[], [⟨"r3", "reader"⟩, reader, ⟨"r8", "writer"⟩]⟩
    let addable : Survey := ⟨[reader, ⟨"r6", "editor"⟩, ⟨"r7", "editor"⟩], [editor]⟩
    (Goal.absent.changes survey desired = [reader, writer] ∧
      Goal.absent.changes removable desired = [reader, writer] ∧
      Goal.absent.changes survey [reader, writer] = [reader, writer]) ∧
    (Goal.present.changes survey desired = [editor, reader] ∧
      Goal.present.changes addable desired = [editor, reader] ∧
      Goal.present.changes survey [editor, reader] = [editor, reader]) := by
  intro reader writer editor desired survey removable addable
  constructor
  · have hchanges : Goal.absent.changes survey desired = [reader, writer] := by decide
    obtain ⟨-, -, -, -, -, hother, hagain⟩ := changes_first_shown .absent survey desired
    have hnames : ∀ name, name ∈ removable.assigned.map Role.name ↔
        name ∈ survey.assigned.map Role.name := by
      intro name
      simp [removable, survey, reader, writer, or_comm]
    refine ⟨hchanges, (hother removable hnames).trans hchanges, ?_⟩
    rw [hchanges] at hagain
    exact hagain
  · have hchanges : Goal.present.changes survey desired = [editor, reader] := by decide
    obtain ⟨-, -, -, -, -, hother, hagain⟩ := changes_first_shown .present survey desired
    have hnames : ∀ name, name ∈ addable.available.map Role.name ↔
        name ∈ survey.available.map Role.name := by
      intro name
      simp [addable, survey, reader, or_comm]
    refine ⟨hchanges, (hother addable hnames).trans hchanges, ?_⟩
    rw [hchanges] at hagain
    exact hagain

end Goal

end GroupRoles
