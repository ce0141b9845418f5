import GroupRoles.Shape.Basic

/-!
# Records

The fields of a record are read in the order in which a text names them: a field given twice is
refused where it is named again, and a field that never comes takes its default or is missing
once all are read. A notation may also give the values by position.
-/

namespace GroupRoles

/-- Fields that together make up a `β`. -/
structure Fields (β : Type) : Type 1 where
  /-- How many fields there are. -/
  size : Nat
  /-- What has been read of them. -/
  Slots : Type
  empty : Slots
  /-- Reads a value into the slot of the field with the given name, if there is one. -/
  store : {ν : Type} → Dialect ν → String → ν → Slots → Option (Except Fault Slots)
  close : Slots → Except Fault β
  /-- Reads the fields from values by position; the first argument is the fault of a list of
  values that ends at a field without a default. -/
  take : {ν : Type} → (Nat → Fault) → Dialect ν → Nat → List ν → Except Fault (β × List ν)
  entries : β → List (String × Json)

namespace Fields

/-- A field under a name or one of its aliases. Without a value it is `default`, or missing if
that is `none`; a value with `hidden` is not written. -/
def field {α : Type} (name : String) (s : Shape α) (default : Option α := none)
    (aliases : List String := []) (hidden : α → Bool := fun _ => false) : Fields α where
  size := 1
  Slots := Option α
  empty := none
  store d key n slot :=
    if key = name || aliases.contains key then
      match slot with
      | some _ => some (throw (Fault.loose (.duplicate name)))
      | none => some (some <$> s.read d n)
    else none
  close slot :=
    match slot <|> default with
    | some a => pure a
    | none => throw (Fault.loose (.missing name))
  take short d i items :=
    match items with
    | n :: rest => do
      let a ← s.read d n
      pure (a, rest)
    | [] =>
      match default with
      | some a => pure (a, [])
      | none => throw (short i)
  entries a := if hidden a then [] else [(name, s.write a)]

/-- A field that may be left out, and is left out when it holds nothing. -/
def optional {α : Type} (name : String) (s : Shape α) : Fields (Option α) :=
  field name (Shape.option s) (some none) [] Option.isNone

/-- The fields of both, one after the other. -/
def both {α β : Type} (f : Fields α) (g : Fields β) : Fields (α × β) where
  size := f.size + g.size
  Slots := f.Slots × g.Slots
  empty := (f.empty, g.empty)
  store d key n slots :=
    match f.store d key n slots.1 with
    | some r => some (r.map fun s => (s, slots.2))
    | none => (g.store d key n slots.2).map fun r => r.map fun s => (slots.1, s)
  close slots := do
    let a ← f.close slots.1
    let b ← g.close slots.2
    pure (a, b)
  take short d i items := do
    let (a, items) ← f.take short d i items
    let (b, items) ← g.take short d (i + f.size) items
    pure ((a, b), items)
  entries p := f.entries p.1 ++ g.entries p.2

/-- The same fields for a type that is built from them. -/
def build {α β : Type} (f : Fields α) (make : α → β) (parts : β → α) : Fields β where
  size := f.size
  Slots := f.Slots
  empty := f.empty
  store := f.store
  close slots := make <$> f.close slots
  take short d i items := do
    let (a, items) ← f.take short d i items
    pure (make a, items)
  entries b := f.entries (parts b)

/-- Reads named values one after the other. -/
def fill {β ν : Type} (f : Fields β) (d : Dialect ν) :
    List (Except Fault String × ν) → f.Slots → Except Fault f.Slots
  | [], slots => pure slots
  | (key, n) :: rest, slots => do
    let key ← key
    match f.store d key n slots with
    | some r => do
      let slots ← r
      fill f d rest slots
    | none => do
      d.pass n
      fill f d rest slots

/-- The fault of a record that ends too early when its values are given by position. -/
def short (title : String) (size i : Nat) : Fault :=
  Fault.loose (.tooShort i
    (s!"struct {title} with {size} element" ++ if size = 1 then "" else "s"))

/-- Reads the fields from the parts of a record. -/
def readContent {β ν : Type} (f : Fields β) (title : String) (d : Dialect ν) :
    Content ν → Except Fault β
  | .named entries => do
    let slots ← f.fill d entries f.empty
    f.close slots
  | .positional items => do
    let (b, rest) ← f.take (short title f.size) d 0 items
    if rest.isEmpty then pure b else throw (Fault.loose .malformed)

end Fields

/-- A record with a title for messages. -/
def Shape.record {β : Type} (title : String) (f : Fields β) : Shape β where
  read d n := do
    let content ← d.content title n
    (f.readContent title d content).mapError (d.settle n)
  write b := .record (f.entries b)

end GroupRoles
