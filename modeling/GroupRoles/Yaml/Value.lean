import GroupRoles.Yaml.Scalar

/-!
# Documents as plain data

A document loads as plain data when every scalar is what its tag asks for, no integer is wider
than 64 bits, no mapping has a key twice, collections nest at most `maxDepth` deep, and its
aliases are followed at most `maxJumps` times for each mark of the text.
-/

namespace GroupRoles.Yaml

/-- Plain data. -/
inductive Value where
  | absent
  | flag (b : Bool)
  | integer (n : Int)
  | real (x : Real)
  | text (s : String)
  | sequence (items : List Value)
  | mapping (entries : List (Value × Value))
  /-- A value under a tag of the document's own; a mark in front of its name does not count. -/
  | tagged (tag : String) (value : Value)
deriving Repr, Inhabited

namespace Value

/-- How deep collections may nest. -/
def maxDepth : Nat := 128

/-- How often aliases may be followed for each mark of the text. -/
def maxJumps : Nat := 100

/-- Equality of data nested less than `fuel` deep; the order of a mapping does not matter. -/
def same : Nat → Value → Value → Bool
  | 0, _, _ => false
  | _ + 1, absent, absent => true
  | _ + 1, flag a, flag b => a = b
  | _ + 1, integer a, integer b => a = b
  | _ + 1, real a, real b => Real.same a b
  | _ + 1, text a, text b => a = b
  | fuel + 1, sequence as, sequence bs =>
    as.length = bs.length && (as.zip bs).all fun (a, b) => same fuel a b
  | fuel + 1, mapping as, mapping bs =>
    as.length = bs.length
      && as.all fun (k, v) => bs.any fun (l, w) => same fuel k l && same fuel v w
  | fuel + 1, tagged s a, tagged t b => Tag.bareName s = Tag.bareName t && same fuel a b
  | _ + 1, _, _ => false

/-- The value of a scalar, unless it is too wide or not what its tag asks for. -/
def ofScalar? (s : Scalar) : Option Value :=
  let plain : Resolved → Option Value
    | .absent => some .absent
    | .flag b => some (.flag b)
    | .integer n => some (.integer n)
    | .wide _ => none
    | .real x => some (.real x)
    | .text s => some (.text s)
  match Scalar.ownTag? s.tag with
  | some tag =>
    (plain (if s.style = .plain then .ofPlain s.text else .text s.text)).map (.tagged tag)
  | none => s.resolve.toOption.bind plain

/-- A collection under its tag, if the document defined it. -/
def withTag (tag : Option Tag) (v : Value) : Value :=
  match Scalar.ownTag? tag with
  | some tag => .tagged tag v
  | none => v

/-- Loads a node with so many levels of collections left; the state counts followed aliases. -/
def load (d : Document) : Nat → Nat → Node → StateT Nat Option Value
  | 0, _, _ => failure
  | _ + 1, _, .scalar s => ofScalar? s
  | fuel + 1, depth, .alias number => do
    modify (· + 1)
    if maxJumps * d.marks < (← get) then failure
    else
      match d.target? number with
      | some node => load d fuel depth node
      | none => failure
  | _ + 1, 0, _ => failure
  | fuel + 1, depth + 1, .sequence tag items => do
    let items ← items.mapM (load d fuel depth)
    pure (withTag tag (.sequence items))
  | fuel + 1, depth + 1, .mapping tag entries => do
    let entries ← entries.foldlM (fun (known : List (Value × Value)) (k, v) => do
      let k ← load d fuel depth k
      if known.any fun (l, _) => same (maxDepth + maxDepth) k l then failure
      else
        let v ← load d fuel depth v
        pure ((k, v) :: known)) []
    pure (withTag tag (.mapping entries))

end Value

namespace Document

/-- Whether a document loads as plain data. -/
def loads (d : Document) : Bool :=
  match d.root with
  | none => true
  | some node => ((Value.load d (3 * Value.maxDepth) Value.maxDepth node).run 0).isSome

end Document

end GroupRoles.Yaml
