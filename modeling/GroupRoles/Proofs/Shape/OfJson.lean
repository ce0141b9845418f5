import GroupRoles.Proofs.Shape.Record
import GroupRoles.Role
import GroupRoles.Shape.OfJson
import Mathlib.Data.List.Basic

/-!
# Reading records from JSON

A record may have members that nothing asks for. `Draft.Holds` says which members it has, and which
it may have besides; a shape that asks for these reads the record whatever else is in it, as long as
that is sound (`read_texts`). Roles are read back from what is written for them.
-/

namespace GroupRoles

namespace Json

/-- The draft of a record with members under these names. -/
def Draft.ofMembers (members : List (String × Draft)) : Draft :=
  .record (members.map fun m => (.text (some m.1), m.2))

/-- A sound record with the needed members, each once. Of a spare member it may have one, and it may
have any members of other names. -/
def Draft.Holds (needed spare : List (String × Draft)) (draft : Draft) : Prop :=
  ∃ members : List (String × Draft), draft = .ofMembers members ∧
    (∀ m ∈ members, Node.sound m.2 = true) ∧
    (∀ m ∈ needed, members.filter (·.1 = m.1) = [m]) ∧
    (∀ m ∈ spare, members.filter (·.1 = m.1) = [] ∨ members.filter (·.1 = m.1) = [m])

/-- A record of two texts has both, and nothing to spare. -/
theorem Draft.holds_texts {first second a b : String} {spare : List (String × Draft)}
    (hne : first ≠ second) (hspare : ∀ m ∈ spare, first ≠ m.1 ∧ second ≠ m.1) :
    (Draft.ofMembers [(first, .text (some a)), (second, .text (some b))]).Holds
      [(first, .text (some a)), (second, .text (some b))] spare := by
  refine ⟨_, rfl, ?_, ?_, fun m hm => .inl ?_⟩
  · simp [Node.sound]
  · simp [hne, hne.symm]
  · simp [hspare m hm]

/-! ## The drafts of values -/

theorem draftItems_eq_map (vs : List Json) : draftItems vs = vs.map draft := by
  induction vs with
  | nil => rfl
  | cons v rest ih => rw [draftItems, ih, List.map_cons]

/-- The members of a value, as they are read. -/
def drafts (members : List (String × Json)) : List (String × Draft) :=
  members.map fun m => (m.1, m.2.draft)

theorem draft_record (members : List (String × Json)) :
    (record members).draft = Draft.ofMembers (drafts members) := by
  have hmembers : draftMembers members =
      (drafts members).map fun m => (Draft.text (some m.1), m.2) := by
    induction members with
    | nil => rfl
    | cons m rest ih => rw [draftMembers, ih, drafts, drafts, List.map_cons, List.map_cons]
  rw [draft, hmembers, Draft.ofMembers]

mutual

/-- A value is free of faults. -/
theorem sound_draft : (v : Json) → Node.sound v.draft = true
  | null | flag _ | number _ | text _ => rfl
  | list items => sound_draftItems items
  | record members => sound_draftMembers members

theorem sound_draftItems : (vs : List Json) → Node.soundItems (draftItems vs) = true
  | [] => rfl
  | v :: rest => by rw [draftItems, Node.soundItems, sound_draft v, sound_draftItems rest]; rfl

theorem sound_draftMembers :
    (ms : List (String × Json)) → Node.soundMembers (draftMembers ms) = true
  | [] => rfl
  | (k, v) :: rest => by
    rw [draftMembers, Node.soundMembers, sound_draft v, sound_draftMembers rest]
    rfl

end

namespace Node

/-- The nodes of members. -/
def ofMembers (depth : Nat) (members : List (String × Draft)) : List (String × Node) :=
  members.map fun m => (m.1, ⟨m.2, depth⟩)

variable (depth : Nat) (members : List (String × Draft))

variable {members} in
theorem pass_ofMembers (h : ∀ m ∈ members, sound m.2 = true) :
    ∀ e ∈ ofMembers depth members, dialect.pass e.2 = .ok () := by
  intro e he
  obtain ⟨m, hm, rfl⟩ := List.mem_map.mp he
  exact if_pos (h m hm)

theorem filter_ofMembers (name : String) :
    (ofMembers depth members).filter (fun e => Fields.isNamed name [] e.1) =
      ofMembers depth (members.filter (·.1 = name)) := by
  have hnamed : ((fun e : String × Node => Fields.isNamed name [] e.1) ∘
      fun m : String × Draft => (m.1, ⟨m.2, depth⟩)) = fun m => decide (m.1 = name) := by
    funext m
    exact Bool.or_false _
  rw [ofMembers, List.filter_map, hnamed, ofMembers]

/-- The members of a record are the named nodes one level below it. -/
theorem content_ofMembers (title : String) :
    content title ⟨.ofMembers members, depth + 1⟩ =
      .ok (.named (Fields.keyed (ofMembers depth members))) := by
  have hzip : ((members.map fun m => (Draft.text (some m.1), m.2)).map fun m => key m.1).zip
      (((members.map fun m => (Draft.text (some m.1), m.2)).map Prod.snd).map fun d =>
        (⟨d, depth⟩ : Node)) = Fields.keyed (ofMembers depth members) := by
    simp only [List.map_map, Fields.keyed, ofMembers]
    induction members with
    | nil => rfl
    | cons m rest ih =>
      simp only [List.map_cons, List.zip_cons_cons, ih]
      rfl
  rw [← hzip]
  rfl

end Node

end Json

namespace Shape

open Json

variable {α β : Type} {depth : Nat}

/-- A record is read where its fields read their values from its members. -/
theorem read_record {f : Fields β} {members : List (String × Draft)} {b : β} (title : String)
    (h : f.Reads dialect (Node.ofMembers depth members) b) :
    (record title f).read dialect ⟨.ofMembers members, depth + 1⟩ = .ok b := by
  obtain ⟨slots, hfill, hclose⟩ := h
  have hcontent := Node.content_ofMembers depth members title
  have hread : f.readContent title dialect
      (.named (Fields.keyed (Node.ofMembers depth members))) = .ok b := by
    rw [Fields.readContent, hfill]
    exact hclose
  change (Node.content title ⟨.ofMembers members, depth + 1⟩ >>= fun content =>
    (f.readContent title dialect content).mapError (dialect.settle _)) = _
  rw [hcontent]
  change (f.readContent title dialect _).mapError _ = _
  rw [hread]
  rfl

/-- A list is read where its items are. -/
theorem read_list {s : Shape α} {drafts : List Draft} {as : List α}
    (h : List.Forall₂ (fun a draft => s.read dialect ⟨draft, depth⟩ = .ok a) as drafts) :
    (list s).read dialect ⟨.list drafts, depth + 1⟩ = .ok as := by
  have hitems : (drafts.map fun draft => (⟨draft, depth⟩ : Node)).mapM (s.read dialect) =
      .ok as := by
    induction h with
    | nil => rfl
    | cons hfirst _ ih =>
      rw [List.map_cons, List.mapM_cons, hfirst]
      change (_ >>= fun as => _) = _
      rw [ih]
      rfl
  change ((drafts.map fun draft => (⟨draft, depth⟩ : Node)).mapM (s.read dialect)).mapError _ = _
  rw [hitems]
  rfl

end Shape

namespace Fields

open Json

/-- A field for a text reads the one member of its name. -/
theorem reads_text {depth : Nat} {members : List (String × Draft)} {name s : String}
    (hsound : ∀ m ∈ members, Node.sound m.2 = true)
    (h : members.filter (·.1 = name) = [(name, .text (some s))]) :
    (field name Shape.text).Reads dialect (Node.ofMembers depth members) s := by
  have hone := Node.filter_ofMembers depth members name
  rw [h] at hone
  exact reads_field (Node.pass_ofMembers depth hsound) hone rfl

/-- Fields of different names share none. -/
theorem ignores_of_ne {α : Type} {name key : String} (h : key ≠ name) (s : Shape α)
    (default : Option α) : (field name s default).Ignores key :=
  ignores_field (by simp [isNamed, h])

end Fields

namespace Shape

open Json

/-- A record of two texts is read from any sound record that has both. -/
theorem read_texts {β : Type} {depth : Nat} {first second a b : String} {draft : Draft}
    (title : String) (make : String × String → β) (parts : β → String × String)
    (hne : first ≠ second)
    (h : draft.Holds [(first, .text (some a)), (second, .text (some b))] []) :
    (record title (((Fields.field first text).both (.field second text)).build make parts)).read
      dialect ⟨draft, depth + 1⟩ = .ok (make (a, b)) := by
  obtain ⟨members, rfl, hsound, hneeded, -⟩ := h
  have hpass := Node.pass_ofMembers depth hsound
  have hsplit : ∀ e ∈ Node.ofMembers depth members,
      (Fields.field first text).Ignores e.1 ∨ (Fields.field second text).Ignores e.1 := by
    intro e _
    by_cases hfirst : e.1 = first
    · exact .inr (Fields.ignores_of_ne (hfirst ▸ hne) text none)
    · exact .inl (Fields.ignores_of_ne hfirst text none)
  exact read_record title (Fields.reads_build hpass (Fields.reads_both hsplit hpass
    (Fields.reads_text hsound (hneeded _ List.mem_cons_self))
    (Fields.reads_text hsound (hneeded _ (List.mem_cons_of_mem _ List.mem_cons_self)))))

end Shape

end GroupRoles
