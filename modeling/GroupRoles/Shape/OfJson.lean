import GroupRoles.Json.Draft
import GroupRoles.Shape.Basic

/-!
# Reading shapes from JSON

Lists and records nest at most `maxDepth` deep. A record is also read from a list of its values
in order. Whatever a shape does not ask for only has to be sound JSON: there numbers may be out
of range, strings may hold half a surrogate pair or bytes that are no character, and nesting is not
counted.
-/

namespace GroupRoles.Json

/-- How deep lists and records may nest. -/
def maxDepth : Nat := 127

/-- A draft and how many more levels may open below it. -/
structure Node where
  draft : Draft
  depth : Nat
deriving Repr

namespace Node

/-- The fault of a text that breaks the grammar. -/
def malformed : Fault := Fault.loose .malformed

/-- What stands at a node, unless the text is at fault. -/
def found (n : Node) : Except Fault Found :=
  match n.draft with
  | .broken => throw malformed
  | .null => pure (.nothing "null")
  | .flag b => pure (.flag b)
  | .number x =>
    match x.value with
    | none => throw malformed
    | some (.natural n) => pure (.integer n)
    | some (.negative n) => pure (.integer (-n))
    | some (.real x) => pure (.real x.scientific)
  | .text none => throw malformed
  | .text (some s) => pure (.text s)
  | .list _ => pure .sequence
  | .record _ => pure .map

/-- The fault of a node of another kind than expected. -/
def refuse {α : Type} (n : Node) (expected : String) : Except Fault α := do
  let found ← n.found
  throw (Fault.loose (.kind found expected))

/-- The nodes one level below. -/
def open? (n : Node) (ds : List Draft) : Except Fault (List Node) :=
  match n.depth with
  | 0 => throw malformed
  | depth + 1 => pure (ds.map fun d => ⟨d, depth⟩)

/-- A text. -/
def text (n : Node) : Except Fault String :=
  match n.draft with
  | .text (some s) => pure s
  | _ => n.refuse "a string"

/-- A truth value. -/
def flag (n : Node) : Except Fault Bool :=
  match n.draft with
  | .flag b => pure b
  | _ => n.refuse "a boolean"

/-- A natural number; a negative integer is of the right kind. -/
def count (n : Node) : Except Fault Nat :=
  match n.draft with
  | .number x =>
    match x.value with
    | some (.natural k) => pure k
    | some (.negative k) => throw (Fault.loose (.content (.integer (-k)) "u64"))
    | _ => n.refuse "u64"
  | _ => n.refuse "u64"

/-- The absent value. -/
def unit (n : Node) : Except Fault Unit :=
  match n.draft with
  | .null => pure ()
  | _ => n.refuse "unit"

/-- What a word selects: a text, or the only key of a record with an absent value. -/
def choose {α : Type} (pick : String → Except Flaw α) (n : Node) : Except Fault α :=
  match n.draft with
  | .text (some s) => (pick s).mapError Fault.loose
  | .record ((key, value) :: rest) =>
    match n.depth, key with
    | 0, _ => throw malformed
    | depth + 1, .text (some s) => do
      let a ← (pick s).mapError Fault.loose
      (Node.mk value depth).unit
      if rest.isEmpty then pure a else throw malformed
    | depth + 1, key => (Node.mk key depth).refuse "variant identifier"
  | _ => throw malformed

/-- A node that is not null. -/
def option (n : Node) : Except Fault (Option Node) :=
  match n.draft with
  | .null => pure none
  | _ => pure (some n)

/-- The items of a list. -/
def items (n : Node) : Except Fault (List Node) :=
  match n.draft with
  | .list ds => n.open? ds
  | _ => n.refuse "a sequence"

/-- The key of a member. -/
def key : Draft → Except Fault String
  | .text (some s) => pure s
  | _ => throw malformed

/-- The members of a record, or its values in order. -/
def content (title : String) (n : Node) : Except Fault (Content Node) :=
  match n.draft with
  | .record ms => do
    let values ← n.open? (ms.map Prod.snd)
    pure (.named ((ms.map fun m => key m.1).zip values))
  | .list ds => do
    let values ← n.open? ds
    pure (.positional values)
  | _ => n.refuse s!"struct {title}"

mutual

/-- Whether a draft is free of grammar faults. -/
def sound : Draft → Bool
  | .broken => false
  | .list ds => soundItems ds
  | .record ms => soundMembers ms
  | _ => true

/-- Whether all items are free of grammar faults. -/
def soundItems : List Draft → Bool
  | [] => true
  | d :: rest => sound d && soundItems rest

/-- Whether all members are free of grammar faults. -/
def soundMembers : List (Draft × Draft) → Bool
  | [] => true
  | (k, v) :: rest => sound k && sound v && soundMembers rest

end

/-- A node that nothing asks for. -/
def pass (n : Node) : Except Fault Unit :=
  if sound n.draft then pure () else throw malformed

end Node

/-- JSON's answers. -/
def dialect : Dialect Node where
  text := Node.text
  flag := Node.flag
  count := Node.count
  choose := Node.choose
  option := Node.option
  items := Node.items
  content := Node.content
  pass := Node.pass
  settle _ fault := fault

end GroupRoles.Json

namespace GroupRoles.Shape

/-- Reads a value from the draft of a text, after which nothing may follow. -/
def ofSheet {α : Type} (s : Shape α) (sheet : Json.Sheet) : Except Fault α := do
  let a ← s.read Json.dialect ⟨sheet.draft, Json.maxDepth⟩
  if sheet.complete then pure a else throw Json.Node.malformed

/-- Reads a value from a JSON text. -/
def ofJsonText {α : Type} (s : Shape α) (text : String) : Except Fault α :=
  s.ofSheet (Json.Draft.ofText text)

/-- Reads a value from the bytes of a JSON text. -/
def ofJsonBytes {α : Type} (s : Shape α) (bytes : List UInt8) : Except Fault α :=
  s.ofSheet (Json.Draft.ofBytes bytes)

end GroupRoles.Shape
