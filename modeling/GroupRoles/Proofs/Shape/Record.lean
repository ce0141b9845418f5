import GroupRoles.Shape.Record

/-!
# Reading the members of a record

`Fields.Reads` says that fields read a value from named nodes. It is proved field by field: a field
reads the one node under its name (`reads_field`), or takes its default where there is none
(`reads_default`), and fields that share no name read together (`reads_both`). Members that no field
asks for only have to be passed over, so that nothing is lost when a record has more of them.
-/

namespace GroupRoles

variable {α β ν : Type}

namespace Fields

/-- No field has the name. -/
def Ignores (f : Fields β) (key : String) : Prop :=
  ∀ {ν : Type} (d : Dialect ν) (n : ν) (slots : f.Slots), f.store d key n slots = none

/-- Nodes under names that a notation does not refuse. -/
def keyed (entries : List (String × ν)) : List (Except Fault String × ν) :=
  entries.map fun e => (.ok e.1, e.2)

/-- The fields read a value from named nodes. -/
def Reads (f : Fields β) (d : Dialect ν) (entries : List (String × ν)) (b : β) : Prop :=
  ∃ slots, f.fill d (keyed entries) f.empty = .ok slots ∧
    f.close slots = .ok b

/-- The first node is stored where a field asks for it, or else passed over. -/
theorem fill_keyed_cons (f : Fields β) (d : Dialect ν) (e : String × ν)
    (rest : List (String × ν)) (slots : f.Slots) :
    f.fill d (keyed (e :: rest)) slots =
      match f.store d e.1 e.2 slots with
      | some r => r.bind fun slots => f.fill d (keyed rest) slots
      | none => (d.pass e.2).bind fun _ => f.fill d (keyed rest) slots :=
  rfl

theorem fill_cons_some {f : Fields β} {d : Dialect ν} {e : String × ν} {slots slots' : f.Slots}
    (h : f.store d e.1 e.2 slots = some (.ok slots')) (rest : List (String × ν)) :
    f.fill d (keyed (e :: rest)) slots = f.fill d (keyed rest) slots' := by
  rw [fill_keyed_cons, h]
  rfl

theorem fill_cons_none {f : Fields β} {d : Dialect ν} {e : String × ν} {slots : f.Slots}
    (h : f.store d e.1 e.2 slots = none) (hpass : d.pass e.2 = .ok ())
    (rest : List (String × ν)) :
    f.fill d (keyed (e :: rest)) slots = f.fill d (keyed rest) slots := by
  rw [fill_keyed_cons, h, hpass]
  rfl

/-- Where a node is stored and all are read, the node has a value. -/
theorem exists_of_fill_cons {f : Fields β} {d : Dialect ν} {e : String × ν}
    {rest : List (String × ν)} {slots last : f.Slots} {r : Except Fault f.Slots}
    (h : f.store d e.1 e.2 slots = some r) (hfill : f.fill d (keyed (e :: rest)) slots = .ok last) :
    ∃ slots', r = .ok slots' ∧ f.fill d (keyed rest) slots' = .ok last := by
  rw [fill_keyed_cons, h] at hfill
  cases r with
  | error fault => cases hfill
  | ok slots' => exact ⟨slots', rfl, hfill⟩

/-- Nodes one after the other. -/
theorem fill_keyed_append (f : Fields β) (d : Dialect ν) (xs ys : List (String × ν))
    (slots : f.Slots) :
    f.fill d (keyed (xs ++ ys)) slots =
      (f.fill d (keyed xs) slots).bind fun slots => f.fill d (keyed ys) slots := by
  induction xs generalizing slots with
  | nil => rfl
  | cons e rest ih =>
    rw [List.cons_append, fill_keyed_cons, fill_keyed_cons]
    cases f.store d e.1 e.2 slots with
    | some r =>
      cases r with
      | error fault => rfl
      | ok slots => exact ih slots
    | none =>
      cases d.pass e.2 with
      | error fault => rfl
      | ok _ => exact ih slots

/-- Nodes that no field asks for are passed over. -/
theorem fill_of_ignores {f : Fields β} {d : Dialect ν} {entries : List (String × ν)}
    (h : ∀ e ∈ entries, f.Ignores e.1) (hpass : ∀ e ∈ entries, d.pass e.2 = .ok ())
    (slots : f.Slots) : f.fill d (keyed entries) slots = .ok slots := by
  induction entries with
  | nil => rfl
  | cons e rest ih =>
    rw [fill_cons_none (h e List.mem_cons_self d e.2 slots) (hpass e List.mem_cons_self)]
    exact ih (fun e' he' => h e' (List.mem_cons_of_mem e he'))
      fun e' he' => hpass e' (List.mem_cons_of_mem e he')

section

variable {f : Fields β} {d : Dialect ν} {xs ys : List (String × ν)} {b : β}

theorem Reads.append_left (h : f.Reads d xs b) (hys : ∀ e ∈ ys, f.Ignores e.1)
    (hpass : ∀ e ∈ ys, d.pass e.2 = .ok ()) : f.Reads d (xs ++ ys) b := by
  obtain ⟨slots, hfill, hclose⟩ := h
  refine ⟨slots, ?_, hclose⟩
  rw [fill_keyed_append, hfill]
  exact fill_of_ignores hys hpass slots

theorem Reads.append_right (h : f.Reads d ys b) (hxs : ∀ e ∈ xs, f.Ignores e.1)
    (hpass : ∀ e ∈ xs, d.pass e.2 = .ok ()) : f.Reads d (xs ++ ys) b := by
  obtain ⟨slots, hfill, hclose⟩ := h
  refine ⟨slots, ?_, hclose⟩
  rw [fill_keyed_append, fill_of_ignores hxs hpass]
  exact hfill

end

/-! ## One field -/

section

variable {d : Dialect ν} {name : String} {s : Shape α} {default : Option α} {aliases : List String}
  {hidden : α → Bool}

/-- A key is the name of a field or one of its aliases. -/
def isNamed (name : String) (aliases : List String) (key : String) : Bool :=
  key = name || aliases.contains key

theorem ignores_field {key : String} (h : isNamed name aliases key = false) :
    (field name s default aliases hidden).Ignores key := by
  intro ν d n slots
  unfold isNamed at h
  simp only [field, h, Bool.false_eq_true, if_false]

/-- Where no node has the name of the field, its slot stays as it is. -/
theorem fill_field_of_none {entries : List (String × ν)} (slot : Option α)
    (hpass : ∀ e ∈ entries, d.pass e.2 = .ok ())
    (h : entries.filter (fun e => isNamed name aliases e.1) = []) :
    (field name s default aliases hidden).fill d (keyed entries) slot =
      .ok slot := by
  induction entries with
  | nil => rfl
  | cons e rest ih =>
    have hne : isNamed name aliases e.1 = false := by
      simpa using List.filter_eq_nil_iff.mp h e List.mem_cons_self
    rw [List.filter_cons_of_neg (by simp [hne])] at h
    rw [fill_cons_none (ignores_field hne d e.2 slot) (hpass e List.mem_cons_self)]
    exact ih (fun e' he' => hpass e' (List.mem_cons_of_mem e he')) h

/-- The one node under the name of the field is read. -/
theorem fill_field_of_one {entries : List (String × ν)} {key : String} {n : ν} {a : α}
    (hpass : ∀ e ∈ entries, d.pass e.2 = .ok ())
    (h : entries.filter (fun e => isNamed name aliases e.1) = [(key, n)])
    (hread : s.read d n = .ok a) :
    (field name s default aliases hidden).fill d (keyed entries) none =
      .ok (some a) := by
  induction entries with
  | nil => cases h
  | cons e rest ih =>
    have hrest : ∀ e' ∈ rest, d.pass e'.2 = .ok () :=
      fun e' he' => hpass e' (List.mem_cons_of_mem e he')
    cases hnamed : isNamed name aliases e.1 with
    | false =>
      -- a node in front of the one that is read
      rw [List.filter_cons_of_neg (by simp [hnamed])] at h
      rw [fill_cons_none (ignores_field hnamed d e.2 none) (hpass e List.mem_cons_self)]
      exact ih hrest h
    | true =>
      rw [List.filter_cons_of_pos (by simp [hnamed])] at h
      obtain ⟨rfl, hnone⟩ := List.cons.inj h
      have hstore : (field name s default aliases hidden).store d key n none =
          some (.ok (some a)) := by
        unfold isNamed at hnamed
        simp only [field, hnamed, if_true, hread]
        rfl
      exact (fill_cons_some (e := (key, n)) hstore rest).trans
        (fill_field_of_none (some a) hrest hnone)

/-- A field reads the one node under its name. -/
theorem reads_field {entries : List (String × ν)} {key : String} {n : ν} {a : α}
    (hpass : ∀ e ∈ entries, d.pass e.2 = .ok ())
    (h : entries.filter (fun e => isNamed name aliases e.1) = [(key, n)])
    (hread : s.read d n = .ok a) :
    (field name s default aliases hidden).Reads d entries a :=
  ⟨some a, fill_field_of_one hpass h hread, rfl⟩

/-- A field without a node takes its default. -/
theorem reads_default {entries : List (String × ν)} {a : α}
    (hpass : ∀ e ∈ entries, d.pass e.2 = .ok ())
    (h : entries.filter (fun e => isNamed name aliases e.1) = []) :
    (field name s (some a) aliases hidden).Reads d entries a :=
  ⟨none, fill_field_of_none none hpass h, rfl⟩

end

/-! ## Several fields -/

section

variable {d : Dialect ν} {f : Fields α} {g : Fields β}

theorem ignores_both {key : String} (hf : f.Ignores key) (hg : g.Ignores key) :
    (f.both g).Ignores key := by
  intro ν d n slots
  simp only [both, hf d n slots.1, hg d n slots.2, Option.map_none]

theorem fill_both {entries : List (String × ν)} {s s' : f.Slots} {t t' : g.Slots}
    (hsplit : ∀ e ∈ entries, f.Ignores e.1 ∨ g.Ignores e.1)
    (hpass : ∀ e ∈ entries, d.pass e.2 = .ok ())
    (hf : f.fill d (keyed entries) s = .ok s')
    (hg : g.fill d (keyed entries) t = .ok t') :
    (f.both g).fill d (keyed entries) (s, t) = .ok (s', t') := by
  induction entries generalizing s t with
  | nil =>
    cases hf
    cases hg
    rfl
  | cons e rest ih =>
    have hpasses : d.pass e.2 = .ok () := hpass e List.mem_cons_self
    have ih : ∀ {s : f.Slots} {t : g.Slots}, f.fill d (keyed rest) s = .ok s' →
        g.fill d (keyed rest) t = .ok t' →
        (f.both g).fill d (keyed rest) (s, t) = .ok (s', t') :=
      ih (fun e' he' => hsplit e' (List.mem_cons_of_mem e he'))
        (fun e' he' => hpass e' (List.mem_cons_of_mem e he'))
    cases hstore : f.store d e.1 e.2 s with
    | some r =>
      -- the other fields ignore what these ask for
      have hignores : g.Ignores e.1 := by
        refine (hsplit e List.mem_cons_self).resolve_left fun hf => ?_
        rw [hf d e.2 s] at hstore
        cases hstore
      obtain ⟨slots, rfl, hf⟩ := exists_of_fill_cons hstore hf
      rw [fill_cons_none (hignores d e.2 t) hpasses] at hg
      have hboth : (f.both g).store d e.1 e.2 (s, t) = some (.ok (slots, t)) := by
        simp only [both, hstore]
        rfl
      exact (fill_cons_some hboth rest).trans (ih hf hg)
    | none =>
      rw [fill_cons_none hstore hpasses] at hf
      cases hstore' : g.store d e.1 e.2 t with
      | some r =>
        obtain ⟨slots, rfl, hg⟩ := exists_of_fill_cons hstore' hg
        have hboth : (f.both g).store d e.1 e.2 (s, t) = some (.ok (s, slots)) := by
          simp only [both, hstore, hstore']
          rfl
        exact (fill_cons_some hboth rest).trans (ih hf hg)
      | none =>
        rw [fill_cons_none hstore' hpasses] at hg
        have hboth : (f.both g).store d e.1 e.2 (s, t) = none := by
          simp only [both, hstore, hstore', Option.map_none]
        exact (fill_cons_none hboth hpasses rest).trans (ih hf hg)

/-- Fields that share no name read together. -/
theorem reads_both {entries : List (String × ν)} {a : α} {b : β}
    (hsplit : ∀ e ∈ entries, f.Ignores e.1 ∨ g.Ignores e.1)
    (hpass : ∀ e ∈ entries, d.pass e.2 = .ok ()) (hf : f.Reads d entries a)
    (hg : g.Reads d entries b) : (f.both g).Reads d entries (a, b) := by
  obtain ⟨s, hfill, hclose⟩ := hf
  obtain ⟨t, hfill', hclose'⟩ := hg
  refine ⟨(s, t), fill_both hsplit hpass hfill hfill', ?_⟩
  simp only [both, hclose, hclose']
  rfl

theorem fill_build {entries : List (String × ν)} {make : α → β} {parts : β → α}
    {slots last : f.Slots} (hpass : ∀ e ∈ entries, d.pass e.2 = .ok ())
    (h : f.fill d (keyed entries) slots = .ok last) :
    (f.build make parts).fill d (keyed entries) slots = .ok last := by
  induction entries generalizing slots with
  | nil =>
    cases h
    rfl
  | cons e rest ih =>
    have hpasses : d.pass e.2 = .ok () := hpass e List.mem_cons_self
    have ih : ∀ {slots : f.Slots}, f.fill d (keyed rest) slots = .ok last →
        (f.build make parts).fill d (keyed rest) slots = .ok last :=
      ih fun e' he' => hpass e' (List.mem_cons_of_mem e he')
    cases hstore : f.store d e.1 e.2 slots with
    | some r =>
      obtain ⟨slots', rfl, h⟩ := exists_of_fill_cons hstore h
      exact (fill_cons_some (f := f.build make parts) hstore rest).trans (ih h)
    | none =>
      rw [fill_cons_none hstore hpasses] at h
      exact (fill_cons_none (f := f.build make parts) hstore hpasses rest).trans (ih h)

/-- A value that is built from what the fields read. -/
theorem reads_build {entries : List (String × ν)} {a : α} {make : α → β} {parts : β → α}
    (hpass : ∀ e ∈ entries, d.pass e.2 = .ok ()) (h : f.Reads d entries a) :
    (f.build make parts).Reads d entries (make a) := by
  obtain ⟨slots, hfill, hclose⟩ := h
  refine ⟨slots, fill_build hpass hfill, ?_⟩
  simp only [build, hclose]
  rfl

end

end Fields

end GroupRoles
