import GroupRoles.Directory.Memory
import GroupRoles.Proofs.Json.Spelling
import GroupRoles.Proofs.Shape.OfJson
import GroupRoles.Proofs.Text.Utf8
import GroupRoles.Service.Directory
import Mathlib.Data.List.Forall2

/-!
# What bodies tell

A body tells of values when its text is a JSON value that holds what is to be known of them
(`Service.Tells`). The text may be written in any way, and every record may have more members. The
directory reads the values from such a body (`decode_list`), and whoever reads the body that it
sends for a change finds the roles of the change in it (`ofJsonText_rolesBody`).
-/

namespace GroupRoles

open Json

/-! ## Records -/

/-- A record that holds the id and the name of a role. -/
def Role.Told (role : Role) (draft : Draft) : Prop :=
  draft.Holds [("id", .text (some role.id)), ("name", .text (some role.name))] []

/-- A record that holds the id and the name of a group, with no groups below it. -/
def Group.Told (group : Group) (draft : Draft) : Prop :=
  draft.Holds [("id", .text (some group.id)), ("name", .text (some group.name))]
    [("subGroups", .list [])]

/-- A record that holds both ids of a client. -/
def Memory.Client.Told (client : Memory.Client) (draft : Draft) : Prop :=
  draft.Holds [("id", .text (some client.id)), ("clientId", .text (some client.clientId))] []

theorem Role.read_shape {role : Role} {draft : Draft} (h : role.Told draft) (depth : Nat) :
    Role.shape.read dialect ⟨draft, depth + 1⟩ = .ok role :=
  Shape.read_texts "ResolvedRole" _ _ (by decide) h

namespace Service

theorem ClientItem.read_shape {client : Memory.Client} {draft : Draft} (h : client.Told draft)
    (depth : Nat) :
    ClientItem.shape.read dialect ⟨draft, depth + 1⟩ = .ok ⟨client.id, client.clientId⟩ :=
  Shape.read_texts "ClientRepresentation" _ _ (by decide) h

theorem GroupTree.read_shape {group : Group} {draft : Draft} (h : group.Told draft)
    (levels depth : Nat) :
    (GroupTree.shape (levels + 1)).read dialect ⟨draft, depth + 2⟩ =
      .ok (.node group.id group.name []) := by
  obtain ⟨members, rfl, hsound, hneeded, hspare⟩ := h
  have hpass := Node.pass_ofMembers (depth + 1) hsound
  have hsubgroups : (Fields.field "subGroups" (.list (shape levels)) (some [])).Reads dialect
      (Node.ofMembers (depth + 1) members) [] := by
    have hfilter := Node.filter_ofMembers (depth + 1) members "subGroups"
    rcases hspare _ List.mem_cons_self with hnone | hone
    · rw [hnone] at hfilter
      exact Fields.reads_default hpass hfilter
    · rw [hone] at hfilter
      exact Fields.reads_field hpass hfilter rfl
  -- no two of the three fields share a name
  have hname : ∀ e ∈ Node.ofMembers (depth + 1) members,
      (Fields.field "name" Shape.text).Ignores e.1 ∨
        (Fields.field "subGroups" (.list (shape levels)) (some [])).Ignores e.1 := by
    intro e _
    by_cases hkey : e.1 = "name"
    · exact .inr (Fields.ignores_of_ne (hkey ▸ by decide) _ _)
    · exact .inl (Fields.ignores_of_ne hkey _ _)
  have hid : ∀ e ∈ Node.ofMembers (depth + 1) members,
      (Fields.field "id" Shape.text).Ignores e.1 ∨
        ((Fields.field "name" Shape.text).both
          (.field "subGroups" (.list (shape levels)) (some []))).Ignores e.1 := by
    intro e _
    by_cases hkey : e.1 = "id"
    · exact .inr (Fields.ignores_both (Fields.ignores_of_ne (hkey ▸ by decide) _ _)
        (Fields.ignores_of_ne (hkey ▸ by decide) _ _))
    · exact .inl (Fields.ignores_of_ne hkey _ _)
  exact Shape.read_record "GroupRepresentation" (Fields.reads_build hpass
    (Fields.reads_both hid hpass (Fields.reads_text hsound (hneeded _ List.mem_cons_self))
      (Fields.reads_both hname hpass
        (Fields.reads_text hsound (hneeded _ (List.mem_cons_of_mem _ List.mem_cons_self)))
        hsubgroups)))

/-! ## Bodies -/

/-- A body whose text is the JSON value of a draft that tells what it has to. -/
def Tells (told : Draft → Prop) (body : List UInt8) : Prop :=
  ∃ text draft, body = Text.Utf8.encode text ∧ Draft.ofText text = ⟨draft, true⟩ ∧ told draft

/-- A list whose items tell of values in order. -/
def ListTold {α : Type} (told : α → Draft → Prop) (as : List α) (draft : Draft) : Prop :=
  ∃ drafts, draft = .list drafts ∧ List.Forall₂ told as drafts

/-- A shape that reads a draft reads a body that tells it. -/
theorem decode_of_tells {α : Type} {shape : Shape α} {told : Draft → Prop} {body : List UInt8}
    {a : α} (h : Tells told body)
    (hread : ∀ draft, told draft → shape.read dialect ⟨draft, maxDepth⟩ = .ok a) :
    decode shape body = .ok a := by
  obtain ⟨text, draft, rfl, htext, htold⟩ := h
  rw [decode, Shape.ofJsonBytes, ofBytes_encode]
  simp only [Shape.ofSheet, htext, hread draft htold]
  rfl

/-- A shape that reads the items reads the list. -/
theorem read_listTold {α β : Type} {shape : Shape β} {told : α → Draft → Prop} {as : List α}
    {draft : Draft} {depth : Nat} {f : α → β} (h : ListTold told as draft)
    (hread : ∀ a draft, told a draft → shape.read dialect ⟨draft, depth⟩ = .ok (f a)) :
    (Shape.list shape).read dialect ⟨draft, depth + 1⟩ = .ok (as.map f) := by
  obtain ⟨drafts, rfl, hdrafts⟩ := h
  exact Shape.read_list (List.forall₂_map_left_iff.mpr (hdrafts.imp hread))

/-- The values of a list are read from a body that tells of them. -/
theorem decode_list {α β : Type} {shape : Shape β} {told : α → Draft → Prop} {as : List α}
    {body : List UInt8} {f : α → β} (h : Tells (ListTold told as) body)
    (hread : ∀ a draft, told a draft → shape.read dialect ⟨draft, 126⟩ = .ok (f a)) :
    decode (.list shape) body = .ok (as.map f) :=
  decode_of_tells h fun _ hdraft => read_listTold hdraft hread

/-- The roles of a list are read from a draft that tells of them. -/
theorem read_roles {roles : List Role} {draft : Draft} (h : ListTold Role.Told roles draft)
    (depth : Nat) : (Shape.list Role.shape).read dialect ⟨draft, depth + 2⟩ = .ok roles := by
  have hlist := read_listTold (f := id) h fun role draft hdraft => Role.read_shape hdraft depth
  rwa [List.map_id] at hlist

/-! ## What is written -/

/-- The text that is written for a value tells what its draft does. -/
theorem tells_compactText {told : Draft → Prop} {v : Json} (h : told v.draft) :
    Tells told (Text.Utf8.encode v.compactText) :=
  ⟨v.compactText, v.draft, rfl, ofText_compactText v, h⟩

/-- A list of written values tells of them in order. -/
theorem listTold_map {α : Type} {told : α → Draft → Prop} {write : α → Json}
    (h : ∀ a, told a (write a).draft) (as : List α) :
    ListTold told as (Json.list (as.map write)).draft := by
  refine ⟨(as.map write).map draft, by rw [draft, draftItems_eq_map], ?_⟩
  rw [List.map_map, List.forall₂_map_right_iff]
  exact List.forall₂_same.mpr fun a _ => h a

end Service

/-- A written role tells of the role. -/
theorem Role.told_write (role : Role) : role.Told (Role.shape.write role).draft :=
  Draft.holds_texts (by decide) (fun _ h => absurd h List.not_mem_nil)

theorem Group.told_write (group : Group) : group.Told (Group.shape.write group).draft :=
  Draft.holds_texts (by decide) (by simp)

theorem Memory.Client.told_write (client : Memory.Client) :
    client.Told (Service.ClientItem.shape.write ⟨client.id, client.clientId⟩).draft :=
  Draft.holds_texts (by decide) (fun _ h => absurd h List.not_mem_nil)

namespace Service

/-- The roles of a change are read back from the body that is sent for it. -/
theorem ofJsonText_rolesBody (roles : List Role) :
    (Shape.list Role.shape).ofJsonText (rolesBody roles).text = .ok roles := by
  have hread : (Shape.list Role.shape).read dialect
      ⟨((Shape.list Role.shape).write roles).draft, maxDepth⟩ = .ok roles :=
    read_roles (listTold_map Role.told_write roles) 125
  change Shape.ofSheet _ (Draft.ofText ((Shape.list Role.shape).write roles).compactText) = _
  rw [ofText_compactText, Shape.ofSheet, hread]
  rfl

end Service

end GroupRoles
