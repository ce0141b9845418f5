import GroupRoles.Shape.Basic
import GroupRoles.Yaml.Lexer
import GroupRoles.Yaml.Value

/-!
# Reading shapes from YAML

A text is any scalar as it is written, and a record or list may be left empty. A fault of the
value is only reported of a text that loads as plain data; otherwise the text itself is at fault.
-/

namespace GroupRoles.Yaml

/-- A node of a document, or the lack of one, with its place. -/
structure Cursor where
  document : Document
  node : Option Node
  place : List Step

namespace Cursor

/-- The node below, behind an alias if there is one. -/
def target (c : Cursor) : Option Node :=
  match c.node with
  | some (.alias number) => c.document.target? number
  | node => node

/-- A fault at a node. -/
def fault {α : Type} (c : Cursor) (flaw : Flaw) : Except Fault α :=
  throw ⟨flaw, some c.place⟩

/-- How messages name what a scalar stands for. -/
def found : Resolved → Found
  | .absent => .nothing "unit value"
  | .flag b => .flag b
  | .integer n | .wide n => .integer n
  | .real x => .real x.describe
  | .text s => .text s

/-- The fault of a node of another kind than expected. -/
def refuse {α : Type} (c : Cursor) (expected : String) : Except Fault α :=
  match c.target with
  | none => throw (Fault.loose .empty)
  | some (.scalar s) =>
    match s.resolve with
    | .ok r => c.fault (.kind (found r) expected)
    | .error asked => c.fault (.content (.text s.text) asked)
  | some (.sequence ..) => c.fault (.kind .sequence expected)
  | some (.mapping ..) => c.fault (.kind .map expected)
  | some (.alias _) => throw (Fault.loose .malformed)

/-- A node inside this one. -/
def inside (c : Cursor) (node : Node) (step : Step) : Cursor :=
  ⟨c.document, some node, step :: c.place⟩

/-- The text of a scalar. -/
def text (c : Cursor) : Except Fault String :=
  match c.target with
  | some (.scalar s) => pure s.text
  | _ => c.refuse "a string"

/-- The truth value that a scalar writes. -/
def flag (c : Cursor) : Except Fault Bool :=
  match c.target with
  | some (.scalar s) =>
    match if s.mayBe "bool" then Resolved.flag? s.text else none with
    | some b => pure b
    | none => c.refuse "a boolean"
  | _ => c.refuse "a boolean"

/-- The natural number that a scalar writes. -/
def count (c : Cursor) : Except Fault Nat :=
  match c.target with
  | some (.scalar s) =>
    match if s.mayBe "int" then Resolved.natural? s.text.toList else none with
    | some n => if n < Nat.pow 2 64 then pure n else c.refuse "u64"
    | none => c.refuse "u64"
  | _ => c.refuse "u64"

/-- The absent value. -/
def unit (c : Cursor) : Except Fault Unit :=
  match c.target with
  | some (.scalar s) =>
    if s.style = .plain && (s.text.isEmpty || Resolved.isAbsent s.text) then pure ()
    else c.fault (.content (.text s.text) "null")
  | _ => c.refuse "unit"

/-- What a tag selects, whose node has to be absent, or else what a scalar selects. -/
def choose {α : Type} (pick : String → Except Flaw α) (c : Cursor) : Except Fault α :=
  let tagged (tag : String) : Except Fault α := do
    let a ← (pick tag).mapError Fault.loose
    c.unit
    pure a
  match c.target with
  | none => throw (Fault.loose .empty)
  | some (.scalar s) =>
    match Scalar.ownTag? s.tag with
    | some tag => tagged tag
    | none => (pick s.text).mapError fun flaw => ⟨flaw, some c.place⟩
  | some (.sequence tag _) | some (.mapping tag _) =>
    match Scalar.ownTag? tag with
    | some tag => tagged tag
    | none => c.refuse "a YAML tag starting with '!'"
  | some (.alias _) => throw (Fault.loose .malformed)

/-- A node that does not stand for the absent value. -/
def option (c : Cursor) : Except Fault (Option Cursor) :=
  match c.target with
  | none => pure none
  | some (.scalar s) =>
    if s.style ≠ .plain then pure (some c)
    else
      match s.tag with
      | some tag =>
        if tag = Tag.core "null" then
          if Resolved.isAbsent s.text then pure none
          else throw (Fault.loose (.content (.text s.text) "null"))
        else pure (some c)
      | none =>
        pure (if s.text.isEmpty || Resolved.isAbsent s.text then none else some c)
  | some _ => pure (some c)

/-- The items of a sequence; a missing node has none. -/
def items (c : Cursor) : Except Fault (List Cursor) :=
  match c.target with
  | none => pure []
  | some (.sequence _ nodes) => pure (nodes.mapIdx fun i node => c.inside node (.item i))
  | some (.scalar s) => if s.isBlank then pure [] else c.refuse "a sequence"
  | some _ => c.refuse "a sequence"

/-- The key of an entry. -/
def key (c : Cursor) (node : Node) : Except Fault String :=
  let c : Cursor := ⟨c.document, some node, c.place⟩
  match c.target with
  | some (.scalar s) => pure s.text
  | _ => c.refuse "field identifier"

/-- The step to the value under a key. -/
def step : Node → Step
  | .scalar s => .field s.text
  | _ => .unnamed

/-- The entries of a mapping; a missing node has none. -/
def content (title : String) (c : Cursor) : Except Fault (Content Cursor) :=
  match c.target with
  | none => pure (.named [])
  | some (.mapping _ entries) =>
    pure (.named (entries.map fun (k, v) => (c.key k, c.inside v (step k))))
  | some (.scalar s) => if s.isBlank then pure (.named []) else c.refuse s!"struct {title}"
  | some _ => c.refuse s!"struct {title}"

end Cursor

/-- YAML's answers. -/
def dialect : Dialect Cursor where
  text := Cursor.text
  flag := Cursor.flag
  count := Cursor.count
  choose := Cursor.choose
  option := Cursor.option
  items := Cursor.items
  content := Cursor.content
  pass _ := pure ()
  settle c fault := fault.settle c.place

/-- The only document of a text. -/
def Document.ofText? (text : String) : Option Document :=
  (Token.ofChars? text.toList).bind Document.ofTokens?

end GroupRoles.Yaml

namespace GroupRoles.Shape

/-- Reads a value from a YAML text. -/
def ofYamlText {α : Type} (s : Shape α) (text : String) : Except Fault α :=
  match Yaml.Document.ofText? text with
  | none => throw (Fault.loose .malformed)
  | some document =>
    match s.read Yaml.dialect ⟨document, document.root, []⟩ with
    | .ok a => pure a
    | .error fault =>
      throw (if document.loads then fault else Fault.loose .malformed)

end GroupRoles.Shape
