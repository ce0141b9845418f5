import GroupRoles.Number.Shortest
import GroupRoles.Text.Quoted

/-!
# Why a value does not have its shape

A fault is a flaw and, once the nearest enclosing value has settled it, the place where it was
found. `Fault.message` is the text shown for it.
-/

namespace GroupRoles

/-- A step from a value to a part of it. -/
inductive Step where
  | field (name : String)
  | item (index : Nat)
  /-- A member whose key is not written as a plain text. -/
  | unnamed
deriving Repr, DecidableEq

/-- What stands where something else was expected. -/
inductive Found where
  | flag (b : Bool)
  | integer (n : Int)
  /-- A number with the text that shows it. -/
  | real (text : String)
  | text (s : String)
  /-- The absent value, under the name that its notation gives it. -/
  | nothing (name : String)
  | sequence
  | map
deriving Repr, DecidableEq

/-- What is wrong with a value. -/
inductive Flaw where
  /-- The text that holds the value breaks its grammar. -/
  | malformed
  /-- The text holds no value. -/
  | empty
  | missing (field : String)
  | duplicate (field : String)
  | unknownWord (word : String) (known : List String)
  /-- A value of another kind. -/
  | kind (found : Found) (expected : String)
  /-- A value of the right kind that is not allowed. -/
  | content (found : Found) (expected : String)
  | tooShort (size : Nat) (expected : String)
  | rejected (text : String)
deriving Repr, DecidableEq

/-- A flaw and, once settled, its place: the steps from the whole value, the last one first. -/
structure Fault where
  flaw : Flaw
  place : Option (List Step)
deriving Repr, DecidableEq

namespace Found

/-- How messages name what was found. -/
def describe : Found → String
  | flag b => "boolean \x60" ++ (if b then "true" else "false") ++ "\x60"
  | integer n => "integer \x60" ++ toString n ++ "\x60"
  | real s => "floating point \x60" ++ s ++ "\x60"
  | text s => "string " ++ Text.quote s
  | nothing name => name
  | sequence => "sequence"
  | map => "map"

end Found

namespace Flaw

/-- A name between backquotes. -/
def ticked (s : String) : String :=
  "\x60" ++ s ++ "\x60"

/-- The words that would have been allowed. -/
def oneOf : List String → String
  | [] => "nothing"
  | [a] => ticked a
  | [a, b] => ticked a ++ " or " ++ ticked b
  | words => "one of " ++ String.intercalate ", " (words.map ticked)

/-- The text of a flaw. -/
def message : Flaw → String
  | malformed => "malformed text"
  | empty => "EOF while parsing a value"
  | missing field => "missing field " ++ ticked field
  | duplicate field => "duplicate field " ++ ticked field
  | unknownWord word known => "unknown variant " ++ ticked word ++ ", expected " ++ oneOf known
  | kind found expected => "invalid type: " ++ found.describe ++ ", expected " ++ expected
  | content found expected => "invalid value: " ++ found.describe ++ ", expected " ++ expected
  | tooShort size expected => "invalid length " ++ toString size ++ ", expected " ++ expected
  | rejected text => text

end Flaw

namespace Fault

/-- A flaw that no enclosing value has settled yet. -/
def loose (flaw : Flaw) : Fault := ⟨flaw, none⟩

/-- Gives a loose fault its place. -/
def settle (place : List Step) (fault : Fault) : Fault :=
  match fault.place with
  | some _ => fault
  | none => { fault with place := some place }

/-- The text of a place, from steps given the last one first. -/
def placeText : List Step → String
  | [] => ""
  | .item i :: outer => (if outer.isEmpty then "." else placeText outer) ++ s!"[{i}]"
  | .field name :: outer => within outer ++ name
  | .unnamed :: outer => within outer ++ "?"
where
  /-- The text in front of a member of a record. -/
  within (outer : List Step) : String :=
    if outer.isEmpty then "" else placeText outer ++ "."

/-- The text of a fault; a fault of the whole value names no place. -/
def message (fault : Fault) : String :=
  match fault.place with
  | some (step :: outer) => placeText (step :: outer) ++ ": " ++ fault.flaw.message
  | _ => fault.flaw.message

end Fault

end GroupRoles
