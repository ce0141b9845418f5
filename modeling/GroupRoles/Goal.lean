import GroupRoles.Shape.Basic

/-!
# What a request wants of its roles
-/

namespace GroupRoles

/-- The listed roles are to be assigned, or not to be assigned. -/
inductive Goal where
  | present
  | absent
deriving Repr, DecidableEq, Inhabited

namespace Goal

/-- The word for a goal. -/
def name : Goal → String
  | present => "present"
  | absent => "absent"

/-- Both goals. -/
def all : List Goal := [present, absent]

/-- The goal that a word names. -/
def ofName? (word : String) : Option Goal :=
  all.find? (name · = word)

/-- The text for a word that names no goal. -/
def unknownMessage (word : String) : String :=
  s!"unknown state '{word}' (expected 'present' or 'absent')"

/-- Every goal is found by its name. -/
@[simp]
theorem ofName?_name (goal : Goal) : ofName? goal.name = some goal := by
  cases goal <;> rfl

/-- A goal by its name. -/
def shape : Shape Goal :=
  .choice name all

end Goal

end GroupRoles
