import GroupRoles.Yaml.Scalars
import GroupRoles.Yaml.Token

/-!
# From glyphs to tokens

The lexer takes one token after the other off the front of a text. It keeps the indentation of
the open block collections, and for each open flow collection the token that would start a key
if a colon followed on the same line; when the colon comes, the key mark is put in front of that
token.
-/

namespace GroupRoles.Yaml

open Glyph

/-- A token that starts a key if a colon follows. -/
structure KeyStart where
  /-- The number of the token. -/
  index : Nat
  line : Nat
  column : Nat
  /-- How many bytes of its line stand in front of it. -/
  offset : Nat
  /-- Whether nothing else than a key may stand here. -/
  required : Bool
deriving Repr

/-- A text read up to some point. -/
structure Lexer where
  rest : List Glyph
  /-- The indentation of the innermost block collection, `-1` outside of all. -/
  indent : Int := -1
  /-- The indentation of the block collections around it. -/
  outer : List Int := []
  /-- Whether a key may start here. -/
  keyAllowed : Bool := true
  /-- The key that may have started, in each open flow collection and outside of all. -/
  keys : List (Option KeyStart) := [none]
  tokens : Array Token := #[]

namespace Lexer

/-- How many bytes a key may start ahead of its colon. -/
def maxKeyLength : Nat := 1024

/-- Whether the lexer is inside a flow collection. -/
def inFlow (l : Lexer) : Bool :=
  1 < l.keys.length

/-- Adds a token. -/
def emit (l : Lexer) (t : Token) : Lexer :=
  { l with tokens := l.tokens.push t }

/-- Drops glyphs. -/
def drop (l : Lexer) (n : Nat) : Lexer :=
  { l with rest := l.rest.drop n }

/-! ## Indentation -/

/-- Closes the block collections indented deeper than a column. -/
def closeTo (column : Int) (indent : Int) : List Int → Array Token → Int × List Int × Array Token
  | [], tokens => (indent, [], tokens)
  | o :: outer, tokens =>
    if column < indent then closeTo column o outer (tokens.push .blockEnd)
    else (indent, o :: outer, tokens)

/-- Closes the block collections indented deeper than a column, outside of flow collections. -/
def unindent (l : Lexer) (column : Int) : Lexer :=
  if l.inFlow then l
  else
    let (indent, outer, tokens) := closeTo column l.indent l.outer l.tokens
    { l with indent, outer, tokens }

/-- Opens a block collection at a column unless one is open there; its token goes in front of
the token with number `index`. -/
def indentTo (l : Lexer) (column index : Nat) (t : Token) : Lexer :=
  if l.inFlow then l
  else if l.indent < column then
    { l with
      indent := column
      outer := l.indent :: l.outer
      tokens := l.tokens.insertIdxIfInBounds index t }
  else l

/-- Opens a block collection at the front unless one is open there. -/
def indentHere (l : Lexer) (t : Token) : Lexer :=
  l.indentTo (frontColumn l.rest) l.tokens.size t

/-! ## Keys -/

/-- Gives up the key that may have started; one that had to be a key is a fault. -/
def dropKey (l : Lexer) : Option Lexer :=
  match l.keys with
  | some key :: outer => if key.required then none else some { l with keys := none :: outer }
  | _ => some l

/-- Notes that a key may start with the next token. -/
def noteKey (l : Lexer) : Option Lexer :=
  if l.keyAllowed then
    l.dropKey.map fun l =>
      let column := frontColumn l.rest
      let key : KeyStart :=
        { index := l.tokens.size
          line := frontLine l.rest
          column
          offset := frontOffset l.rest
          required := !l.inFlow && l.indent = (column : Int) }
      { l with keys := some key :: l.keys.drop 1 }
  else some l

/-- Whether a colon at the front still belongs to a key. -/
def reaches (l : Lexer) (key : KeyStart) : Bool :=
  key.line = frontLine l.rest && frontOffset l.rest ≤ key.offset + maxKeyLength

/-! ## Single tokens -/

/-- Goes to the glyph where the next token starts. -/
def skipToToken (flow : Bool) : Nat → Bool → List Glyph → Bool × List Glyph
  | 0, allowed, gs => (allowed, gs)
  | fuel + 1, allowed, gs =>
    let gs := if frontColumn gs = 0 && first gs = orderMark then gs.drop 1 else gs
    let gs := gs.dropWhile fun g => g.char = ' ' || ((flow || !allowed) && g.char = '\t')
    let gs := skipComment gs
    if isBreak (first gs) then skipToToken flow fuel (allowed || !flow) (gs.drop 1)
    else (allowed, gs)

/-- The end of the text. -/
def atEnd (l : Lexer) : Option Lexer :=
  (l.unindent (-1)).dropKey.map fun l => { l.emit .endOfText with keyAllowed := false }

/-- The start or end of a document. -/
def documentMark (l : Lexer) (t : Token) : Option Lexer :=
  (l.unindent (-1)).dropKey.map fun l => { (l.drop 3).emit t with keyAllowed := false }

/-- The start of a flow collection. -/
def openFlow (l : Lexer) (t : Token) : Option Lexer :=
  l.noteKey.map fun l =>
    { (l.drop 1).emit t with keys := none :: l.keys, keyAllowed := true }

/-- The end of a flow collection. -/
def closeFlow (l : Lexer) (t : Token) : Option Lexer :=
  l.dropKey.map fun l =>
    { (l.drop 1).emit t with
      keys := if l.inFlow then l.keys.drop 1 else l.keys
      keyAllowed := false }

/-- The comma of a flow collection. -/
def comma (l : Lexer) : Option Lexer :=
  l.dropKey.map fun l => { (l.drop 1).emit .comma with keyAllowed := true }

/-- The dash of a block sequence. -/
def entry (l : Lexer) : Option Lexer :=
  if !l.inFlow && !l.keyAllowed then none
  else
    (l.indentHere .blockSequence).dropKey.map fun l =>
      { (l.drop 1).emit .entry with keyAllowed := true }

/-- The question mark in front of a key. -/
def explicitKey (l : Lexer) : Option Lexer :=
  if !l.inFlow && !l.keyAllowed then none
  else
    (l.indentHere .blockMapping).dropKey.map fun l =>
      { (l.drop 1).emit .key with keyAllowed := !l.inFlow }

/-- The colon behind a key. -/
def value (l : Lexer) : Option Lexer :=
  let plain (l : Lexer) : Option Lexer :=
    if !l.inFlow && !l.keyAllowed then none
    else
      let l := l.indentHere .blockMapping
      some { (l.drop 1).emit .value with keyAllowed := !l.inFlow }
  match l.keys with
  | some key :: outer =>
    if l.reaches key then
      let l := { l with tokens := l.tokens.insertIdxIfInBounds key.index .key }
      let l := l.indentTo key.column key.index .blockMapping
      some { (l.drop 1).emit .value with keys := none :: outer, keyAllowed := false }
    else if key.required then none
    else plain { l with keys := none :: outer }
  | _ => plain l

/-- Whether a character may follow a name directly. -/
def endsName (c : Char) : Bool :=
  isGap c || c = '?' || c = ':' || c = ',' || c = ']' || c = '\x7d' || c = '%' || c = '@'
    || c = '\x60'

/-- An alias or an anchor. -/
def name (l : Lexer) (t : String → Token) : Option Lexer := do
  let l ← l.noteKey
  let (cs, rest) := span isNameChar (l.rest.drop 1)
  if cs.isEmpty || !endsName (first rest) then none
  else some { l.emit (t (String.ofList cs)) with rest, keyAllowed := false }

/-! ## Tags -/

/-- A character that a tag may hold. -/
def isTagChar (verbatim : Bool) (c : Char) : Bool :=
  isNameChar c || c = ';' || c = '/' || c = '?' || c = ':' || c = '@' || c = '&' || c = '='
    || c = '+' || c = '$' || c = '.' || c = '%' || c = '!' || c = '~' || c = '*'
    || c = '\x27' || c = '(' || c = ')' || (verbatim && (c = ',' || c = '[' || c = ']'))

/-- The characters of a tag, as the tag that they write, and the rest. -/
def tagText? (verbatim : Bool) (gs : List Glyph) : Option (Tag × List Glyph) :=
  let (cs, rest) := span (isTagChar verbatim) gs
  (Tag.ofChars? cs).map fun t => (t, rest)

/-- The handle of a tag behind its first mark: a name and a second mark, or nothing. -/
def tagHandle? (gs : List Glyph) : Option (String × List Glyph) :=
  let (cs, rest) := span isNameChar gs
  if first rest = '!' then some ("!" ++ String.ofList cs ++ "!", rest.drop 1) else none

/-- A tag as handle and suffix; a verbatim tag and the tag of a single mark have an empty
handle. -/
def tagParts? (gs : List Glyph) : Option (String × Tag × List Glyph) :=
  if first gs = '<' then
    if !isTagChar true (ahead 1 gs) then none
    else do
      let (t, rest) ← tagText? true (gs.drop 1)
      if first rest ≠ '>' then none else some ("", t, rest.drop 1)
  else
    match tagHandle? gs with
    | some (handle, rest) =>
      if !isTagChar false (first rest) then none
      else (tagText? false rest).map fun (t, rest) => (handle, t, rest)
    | none =>
      (tagText? false gs).map fun (t, rest) =>
        if t.bytes.isEmpty then ("", .ofText "!", rest) else ("!", t, rest)

/-- A tag. -/
def tag (l : Lexer) : Option Lexer := do
  let l ← l.noteKey
  let (handle, suffix, rest) ← tagParts? (l.rest.drop 1)
  if isGap (first rest) || (l.inFlow && first rest = ',') then
    some { l.emit (.tag handle suffix) with rest, keyAllowed := false }
  else none

/-! ## Directives -/

/-- A number of at most nine digits. -/
def versionNumber? (gs : List Glyph) : Option (Nat × List Glyph) :=
  let (cs, rest) := span isDigit gs
  if cs.isEmpty || 9 < cs.length then none
  else some (cs.foldl (fun n c => n * 10 + (c.toNat - 48)) 0, rest)

/-- The version that a directive asks for. -/
def versionDirective? (gs : List Glyph) : Option (Token × List Glyph) := do
  let (major, rest) ← versionNumber? (skipBlanks gs)
  if first rest ≠ '.' then none
  else
    let (minor, rest) ← versionNumber? (rest.drop 1)
    some (.version major minor, rest)

/-- The handle that a directive declares. -/
def handleDirective? (gs : List Glyph) : Option (Token × List Glyph) := do
  let gs := skipBlanks gs
  if first gs ≠ '!' then none
  else
    let (handle, rest) ←
      match tagHandle? (gs.drop 1) with
      | some r => some r
      | none => if isNameChar (ahead 1 gs) then none else some ("!", gs.drop 1)
    let front := skipBlanks rest
    if !isBlank (first rest) || !isTagChar true (first front) then none
    else
      let (stem, rest) ← tagText? true front
      if !isGap (first rest) then none else some (.tagHandle handle stem, rest)

/-- A directive and the rest of its line. -/
def directive (l : Lexer) : Option Lexer := do
  let l ← (l.unindent (-1)).dropKey
  let (cs, rest) := span isNameChar (l.rest.drop 1)
  if !isGap (first rest) then none
  else
    let (t, rest) ←
      if cs = "YAML".toList then versionDirective? rest
      else if cs = "TAG".toList then handleDirective? rest
      else none
    let rest ← endLine? rest
    some { l.emit t with rest, keyAllowed := false }

/-! ## Scalars -/

/-- A block scalar. -/
def block (l : Lexer) (literal : Bool) : Option Lexer := do
  let l ← l.dropKey
  let (cs, rest) ← blockScalar literal l.indent (l.rest.drop 1)
  let style := if literal then Style.literal else .folded
  some { l.emit (.scalar style (String.ofList cs)) with rest, keyAllowed := true }

/-- A quoted scalar. -/
def quoted (l : Lexer) (single : Bool) : Option Lexer := do
  let l ← l.noteKey
  let (cs, rest) ← quotedScalar single (l.rest.length + 1) [] (l.rest.drop 1)
  let style := if single then Style.singleQuoted else .doubleQuoted
  some { l.emit (.scalar style (String.ofList cs)) with rest, keyAllowed := false }

/-- A plain scalar. -/
def plain (l : Lexer) : Option Lexer := do
  let l ← l.noteKey
  let (cs, broken, rest) ←
    plainScalar l.inFlow (l.indent + 1) (l.rest.length + 1) [] (.blanks []) l.rest
  some { l.emit (.scalar .plain (String.ofList cs)) with rest, keyAllowed := broken }

/-- Whether a character has a meaning of its own in front of a token. -/
def isIndicator (c : Char) : Bool :=
  c = '-' || c = '?' || c = ':' || isFlowMark c || c = '#' || c = '&' || c = '*' || c = '!'
    || c = '|' || c = '>' || c = '\x27' || c = '\x22' || c = '%' || c = '@' || c = '\x60'

/-! ## All tokens -/

/-- The token at the front. -/
def token (l : Lexer) : Option Lexer :=
  let c := first l.rest
  let gap := isGap (ahead 1 l.rest)
  let lineStart := frontColumn l.rest = 0
  if c = '%' && lineStart then l.directive
  else if isDocumentMark '-' l.rest then l.documentMark .documentStart
  else if isDocumentMark '.' l.rest then l.documentMark .documentEnd
  else if c = '[' then l.openFlow .flowSequence
  else if c = '\x7b' then l.openFlow .flowMapping
  else if c = ']' then l.closeFlow .flowSequenceEnd
  else if c = '\x7d' then l.closeFlow .flowMappingEnd
  else if c = ',' then l.comma
  else if c = '-' && gap then l.entry
  else if c = '?' && (l.inFlow || gap) then l.explicitKey
  else if c = ':' && (l.inFlow || gap) then l.value
  else if c = '*' then l.name .alias
  else if c = '&' then l.name .anchor
  else if c = '!' then l.tag
  else if c = '|' && !l.inFlow then l.block true
  else if c = '>' && !l.inFlow then l.block false
  else if c = '\x27' then l.quoted true
  else if c = '\x22' then l.quoted false
  else if !(isGap c || isIndicator c) || (c = '-' && !isBlank (ahead 1 l.rest))
      || (!l.inFlow && (c = '?' || c = ':') && !gap) then l.plain
  else none

/-- Reads tokens up to the end of the text. -/
def run : Nat → Lexer → Option (Array Token)
  | 0, _ => none
  | fuel + 1, l =>
    let (keyAllowed, rest) := skipToToken l.inFlow (l.rest.length + 1) l.keyAllowed l.rest
    let l := { l with keyAllowed, rest }
    let l := l.unindent (frontColumn l.rest)
    if first l.rest = endMark then l.atEnd.map tokens
    else l.token.bind (run fuel)

end Lexer

/-- The tokens of a text. -/
def Token.ofChars? (cs : List Char) : Option (List Token) :=
  (Glyph.ofChars? cs).bind fun gs =>
    (Lexer.run (gs.length + 1) { rest := gs }).map Array.toList

end GroupRoles.Yaml
