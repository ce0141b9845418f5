import GroupRoles.Json.Basic
import GroupRoles.Shape.Fault

/-!
# Shapes of values

A shape reads a value of a type from a node of some notation and writes such a value as JSON.
It asks its questions through a dialect, so the same shape reads every notation that answers
them.
-/

namespace GroupRoles

/-- The parts of a node that stands for a record. -/
inductive Content (ν : Type) where
  /-- Keys, each a text unless the notation refuses it, with their values. -/
  | named (entries : List (Except Fault String × ν))
  /-- The values of the fields in their order. -/
  | positional (items : List ν)

/-- How a notation with nodes `ν` answers what a shape asks. -/
structure Dialect (ν : Type) : Type 1 where
  text : ν → Except Fault String
  flag : ν → Except Fault Bool
  /-- A natural number below `2 ^ 64`. -/
  count : ν → Except Fault Nat
  /-- The value that a word selects. -/
  choose : {α : Type} → (String → Except Flaw α) → ν → Except Fault α
  /-- The node itself unless it stands for an absent value. -/
  option : ν → Except Fault (Option ν)
  items : ν → Except Fault (List ν)
  /-- The parts of a record of the given title. -/
  content : String → ν → Except Fault (Content ν)
  /-- Passes over a node that nothing asks for. -/
  pass : ν → Except Fault Unit
  /-- Gives a fault found inside a node its place. -/
  settle : ν → Fault → Fault

/-- How values of a type are read and written. -/
structure Shape (α : Type) : Type 1 where
  read : {ν : Type} → Dialect ν → ν → Except Fault α
  write : α → Json

namespace Shape

/-- Any text. -/
def text : Shape String where
  read d n := d.text n
  write := .text

/-- A truth value. -/
def flag : Shape Bool where
  read d n := d.flag n
  write := .flag

/-- A natural number below `2 ^ 64`. -/
def count : Shape Nat where
  read d n := d.count n
  write := .number

/-- The value of the given name. -/
def select {α : Type} (name : α → String) (all : List α) (word : String) : Except Flaw α :=
  match all.find? (name · = word) with
  | some a => pure a
  | none => throw (.unknownWord word (all.map name))

/-- One of finitely many values, each selected by its name. -/
def choice {α : Type} (name : α → String) (all : List α) : Shape α where
  read d n := d.choose (select name all) n
  write a := .text (name a)

/-- A value that may be absent. -/
def option {α : Type} (s : Shape α) : Shape (Option α) where
  read d n := do
    match ← d.option n with
    | some n => some <$> s.read d n
    | none => pure none
  write
    | some a => s.write a
    | none => .null

/-- Any number of values in order. -/
def list {α : Type} (s : Shape α) : Shape (List α) where
  read d n := do
    let items ← d.items n
    (items.mapM (s.read d)).mapError (d.settle n)
  write as := .list (as.map s.write)

/-- Values given by others of which some are refused. -/
def checked {α β : Type} (s : Shape β) (accept : β → Except String α) (give : α → β) :
    Shape α where
  read d n := do
    let b ← s.read d n
    (accept b).mapError fun text => Fault.loose (.rejected text)
  write a := s.write (give a)

end Shape

end GroupRoles
