import GroupRoles.Yaml.Token

/-!
# YAML documents

The nodes of a document. An anchor marks a node and an alias stands for the node of an anchor
before it. Both go by number: an anchor gets as number how many different names were used
before it, and of two anchors with one number the later one counts.
-/

namespace GroupRoles.Yaml

/-- A scalar with its tag. -/
structure Scalar where
  text : String
  style : Style
  tag : Option Tag
deriving Repr, DecidableEq

/-- A node. -/
inductive Node where
  | scalar (s : Scalar)
  | sequence (tag : Option Tag) (items : List Node)
  | mapping (tag : Option Tag) (entries : List (Node × Node))
  | alias (number : Nat)
deriving Repr, Inhabited

/-- A node that an anchor marks. -/
structure Anchored where
  number : Nat
  /-- How many marks the document has before the node. -/
  start : Nat
  node : Node
deriving Repr, Inhabited

/-- A document. -/
structure Document where
  /-- The node of the document, unless the text is empty. -/
  root : Option Node
  anchored : List Anchored
  /-- How many scalars, aliases and starts and ends of collections the document has. -/
  marks : Nat
deriving Repr

namespace Document

/-- The node that an alias stands for. -/
def target? (d : Document) (number : Nat) : Option Node :=
  let latest := (d.anchored.filter (·.number = number)).foldl
    (fun (best : Option Anchored) a =>
      match best with
      | some b => if b.start < a.start then some a else some b
      | none => some a)
    none
  latest.map Anchored.node

end Document

namespace Node

/-- A plain scalar without text. -/
def blank : Node :=
  scalar ⟨"", .plain, none⟩

end Node

/-! ## From tokens to nodes -/

/-- What the nodes before have declared. -/
structure Scope where
  tokens : List Token
  /-- The handles of tags with what they stand for. -/
  handles : List (String × Tag) := [("!", .ofText "!"), ("!!", .coreStem)]
  /-- The names of anchors with their numbers. -/
  names : List (String × Nat) := []
  anchored : List Anchored := []
  marks : Nat := 0

/-- A step that reads tokens and may fail. -/
abbrev Build := StateT Scope Option

namespace Build

/-- The token in front. -/
def peek : Build Token := do
  match (← get).tokens with
  | t :: _ => pure t
  | [] => pure .endOfText

/-- Drops the token in front. -/
def next : Build Unit :=
  modify fun s => { s with tokens := s.tokens.drop 1 }

/-- Drops the token in front, which has to be `t`. -/
def expect (t : Token) : Build Unit := do
  if (← peek) = t then next else failure

/-- Counts marks. -/
def count (n : Nat) : Build Unit :=
  modify fun s => { s with marks := s.marks + n }

/-- The node without text that stands where none is written. -/
def missing : Build Node := do
  count 1
  pure .blank

/-- The anchor in front, if there is one. -/
def anchor? : Build (Option String) := do
  match ← peek with
  | .anchor name => do
    next
    pure (some name)
  | _ => pure none

/-- The tag in front, if there is one, with its handle resolved. -/
def tag? : Build (Option Tag) := do
  match ← peek with
  | .tag handle suffix => do
    next
    if handle.isEmpty then pure (some suffix)
    else
      match (← get).handles.lookup handle with
      | some stem => pure (some (stem.append suffix))
      | none => failure
  | _ => pure none

/-- An anchor and a tag in either order. -/
def properties : Build (Option String × Option Tag) := do
  match ← anchor? with
  | some name => do
    let tag ← tag?
    pure (some name, tag)
  | none => do
    let tag ← tag?
    match tag with
    | some _ => do
      let name ← anchor?
      pure (name, tag)
    | none => pure (none, none)

/-- Gives an anchor its number. -/
def number (name : String) : Build Nat := do
  let s ← get
  let n := s.names.length
  set { s with names := (name, n) :: s.names.filter (·.1 ≠ name) }
  pure n

/-- Reads a node that an anchor may mark. -/
def mark (anchor : Option String) (read : Build Node) : Build Node := do
  match anchor with
  | none => read
  | some name => do
    let start := (← get).marks
    let n ← number name
    let node ← read
    modify fun s => { s with anchored := ⟨n, start, node⟩ :: s.anchored }
    pure node

/-- A scalar. -/
def scalar (style : Style) (text : String) (tag : Option Tag) : Build Node := do
  next
  count 1
  pure (.scalar ⟨text, style, tag⟩)

mutual

/-- A node; in a block context block collections may stand, and as a value of a block mapping
also a sequence whose dashes are not indented. -/
def node : Nat → Bool → Bool → Build Node
  | 0, _, _ => failure
  | fuel + 1, block, loose => do
    match ← peek with
    | .alias name => do
      next
      count 1
      match (← get).names.lookup name with
      | some n => pure (.alias n)
      | none => failure
    | _ => do
      let (anchor, tag) ← properties
      mark anchor <| do
        let t ← peek
        match t with
        | .entry =>
          if loose then do
            count 2
            let items ← looseItems fuel
            pure (.sequence tag items)
          else bare anchor tag
        | .scalar style text => scalar style text tag
        | .flowSequence => do
          next
          count 2
          let items ← flowItems fuel true
          pure (.sequence tag items)
        | .flowMapping => do
          next
          count 2
          let entries ← flowEntries fuel true
          pure (.mapping tag entries)
        | .blockSequence =>
          if block then do
            next
            count 2
            let items ← blockItems fuel
            pure (.sequence tag items)
          else bare anchor tag
        | .blockMapping =>
          if block then do
            next
            count 2
            let entries ← blockEntries fuel
            pure (.mapping tag entries)
          else bare anchor tag
        | _ => bare anchor tag

/-- A node of properties alone. -/
def bare (anchor : Option String) (tag : Option Tag) : Build Node :=
  if anchor.isNone && tag.isNone then failure
  else do
    count 1
    pure (.scalar ⟨"", .plain, tag⟩)

/-- The items of a block sequence. -/
def blockItems : Nat → Build (List Node)
  | 0 => failure
  | fuel + 1 => do
    match ← peek with
    | .entry => do
      next
      let item ←
        match ← peek with
        | .entry | .blockEnd => missing
        | _ => node fuel true false
      let rest ← blockItems fuel
      pure (item :: rest)
    | .blockEnd => do
      next
      pure []
    | _ => failure

/-- The items of a sequence whose dashes are not indented. -/
def looseItems : Nat → Build (List Node)
  | 0 => failure
  | fuel + 1 => do
    match ← peek with
    | .entry => do
      next
      let item ←
        match ← peek with
        | .entry | .key | .value | .blockEnd => missing
        | _ => node fuel true false
      let rest ← looseItems fuel
      pure (item :: rest)
    | _ => pure []

/-- The key or value of a block mapping behind its mark. -/
def blockPart : Nat → Build Node
  | 0 => failure
  | fuel + 1 => do
    match ← peek with
    | .key | .value | .blockEnd => missing
    | _ => node fuel true true

/-- The entries of a block mapping. -/
def blockEntries : Nat → Build (List (Node × Node))
  | 0 => failure
  | fuel + 1 => do
    match ← peek with
    | .key => do
      next
      let key ← blockPart fuel
      let value ←
        match ← peek with
        | .value => do
          next
          blockPart fuel
        | _ => missing
      let rest ← blockEntries fuel
      pure ((key, value) :: rest)
    | .blockEnd => do
      next
      pure []
    | _ => failure

/-- The items of a flow sequence. -/
def flowItems : Nat → Bool → Build (List Node)
  | 0, _ => failure
  | fuel + 1, isFirst => do
    if (← peek) = .flowSequenceEnd then do
      next
      pure []
    else do
      if !isFirst then expect .comma
      match ← peek with
      | .key => do
        next
        count 2
        let pair ← flowPair fuel
        let rest ← flowItems fuel false
        pure (.mapping none [pair] :: rest)
      | .flowSequenceEnd => do
        next
        pure []
      | _ => do
        let item ← node fuel false false
        let rest ← flowItems fuel false
        pure (item :: rest)

/-- A single pair in a flow sequence. Where its key is missing, the mark in its place is
dropped as well. -/
def flowPair : Nat → Build (Node × Node)
  | 0 => failure
  | fuel + 1 => do
    let key ←
      match ← peek with
      | .value | .comma | .flowSequenceEnd => do
        next
        missing
      | _ => node fuel false false
    let value ←
      match ← peek with
      | .value => do
        next
        match ← peek with
        | .comma | .flowSequenceEnd => missing
        | _ => node fuel false false
      | _ => missing
    pure (key, value)

/-- The entries of a flow mapping. -/
def flowEntries : Nat → Bool → Build (List (Node × Node))
  | 0, _ => failure
  | fuel + 1, isFirst => do
    if (← peek) = .flowMappingEnd then do
      next
      pure []
    else do
      if !isFirst then expect .comma
      match ← peek with
      | .key => do
        next
        let key ←
          match ← peek with
          | .value | .comma | .flowMappingEnd => missing
          | _ => node fuel false false
        let value ←
          match ← peek with
          | .value => do
            next
            match ← peek with
            | .comma | .flowMappingEnd => missing
            | _ => node fuel false false
          | _ => missing
        let rest ← flowEntries fuel false
        pure ((key, value) :: rest)
      | .flowMappingEnd => do
        next
        pure []
      | _ => do
        let key ← node fuel false false
        let value ← missing
        let rest ← flowEntries fuel false
        pure ((key, value) :: rest)

end

/-! ## Documents -/

/-- The directives in front of a document. -/
def directives : Nat → Bool → List String → Build Unit
  | 0, _, _ => failure
  | fuel + 1, versioned, declared => do
    match ← peek with
    | .version major minor =>
      if versioned || major ≠ 1 || (minor ≠ 1 && minor ≠ 2) then failure
      else do
        next
        directives fuel true declared
    | .tagHandle handle stem =>
      if declared.contains handle then failure
      else do
        next
        modify fun s => { s with handles := (handle, stem) :: s.handles }
        directives fuel versioned (handle :: declared)
    | _ => pure ()

/-- Drops marks that end a document. -/
def documentEnds : Nat → Build Unit
  | 0 => failure
  | fuel + 1 => do
    if (← peek) = .documentEnd then do
      next
      documentEnds fuel
    else pure ()

/-- The only document of a text. -/
def document (fuel : Nat) : Build Document := do
  let root ←
    match ← peek with
    | .endOfText => pure none
    | .version .. | .tagHandle .. | .documentStart => do
      directives fuel false []
      expect .documentStart
      match ← peek with
      | .version .. | .tagHandle .. | .documentStart | .documentEnd | .endOfText =>
        some <$> missing
      | _ => some <$> node fuel true false
    | _ => some <$> node fuel true false
  documentEnds fuel
  if (← peek) = .endOfText then do
    let s ← get
    pure ⟨root, s.anchored, s.marks⟩
  else failure

end Build

namespace Document

/-- The document that tokens write. -/
def ofTokens? (tokens : List Token) : Option Document :=
  ((Build.document (3 * tokens.length + 3)).run { tokens }).map Prod.fst

end Document

end GroupRoles.Yaml
