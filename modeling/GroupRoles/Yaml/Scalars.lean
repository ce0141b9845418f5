import GroupRoles.Text.Hex
import GroupRoles.Yaml.Glyph

/-!
# Scalars in a YAML text

Plain, quoted and block scalars. In plain and quoted scalars a gap of blanks stays as it is,
while a gap with line breaks is folded: one break reads as a space, and of several the first
is dropped.
-/

namespace GroupRoles.Yaml

open Glyph

/-! ## Gaps -/

/-- What stands between two words of a scalar. -/
inductive Gap where
  | blanks (cs : List Char)
  /-- The first line break, unless it was escaped, and the later ones. -/
  | breaks (first : Option Char) (more : List Char)

namespace Gap

/-- What a gap reads as. -/
def text : Gap → List Char
  | blanks cs => cs
  | breaks (some '\n') [] => [' ']
  | breaks (some '\n') more => more
  | breaks (some c) more => c :: more
  | breaks none more => more

/-- Whether a gap holds a line break. -/
def isBreaks : Gap → Bool
  | blanks _ => false
  | breaks .. => true

/-- Reads a gap to its end; blanks at the start of a line are dropped unless they are refused. -/
def read (refused : Glyph → Bool) : Gap → List Glyph → Option (Gap × List Glyph)
  | gap, [] => some (gap, [])
  | gap, g :: rest =>
    if isBlank g.char then
      match gap with
      | blanks cs => read refused (blanks (cs ++ [g.char])) rest
      | breaks first more =>
        if refused g then none else read refused (breaks first more) rest
    else if isBreak g.char then
      match gap with
      | blanks _ => read refused (breaks (some g.char) []) rest
      | breaks first more => read refused (breaks first (more ++ [g.char])) rest
    else some (gap, g :: rest)

end Gap

/-! ## Plain scalars -/

/-- A mark of flow collections. -/
def isFlowMark (c : Char) : Bool :=
  c = ',' || c = '[' || c = ']' || c = '\x7b' || c = '\x7d'

/-- A word of a plain scalar; in a flow collection a colon in front of a mark is refused. -/
def plainWord (flow : Bool) : List Glyph → Option (List Char × List Glyph)
  | [] => some ([], [])
  | g :: rest =>
    if isGap g.char then some ([], g :: rest)
    else if flow && g.char = ':' && (isFlowMark (first rest) || first rest = '?') then none
    else if (g.char = ':' && isGap (first rest)) || (flow && isFlowMark g.char) then
      some ([], g :: rest)
    else (plainWord flow rest).map fun (word, rest) => (g.char :: word, rest)

/-- The words of a plain scalar, whether it ends behind a line break, and the rest. -/
def plainScalar (flow : Bool) (indent : Int) :
    Nat → List Char → Gap → List Glyph → Option (List Char × Bool × List Glyph)
  | 0, _, _, _ => none
  | fuel + 1, text, gap, gs =>
    if atDocumentMark gs || first gs = '#' then some (text, gap.isBreaks, gs)
    else
      (plainWord flow gs).bind fun (word, rest) =>
        if word.isEmpty then some (text, gap.isBreaks, rest)
        else
          let text := text ++ gap.text ++ word
          if !(isBlank (first rest) || isBreak (first rest)) then some (text, false, rest)
          else
            let refused (g : Glyph) : Bool := g.char = '\t' && (g.column : Int) < indent
            (Gap.read refused (.blanks []) rest).bind fun (gap, rest) =>
              if !flow && (frontColumn rest : Int) < indent then some (text, gap.isBreaks, rest)
              else plainScalar flow indent fuel text gap rest

/-! ## Quoted scalars -/

/-- A word between single quotes, where two quotes stand for one. -/
def singleWord : List Glyph → List Char × List Glyph
  | [] => ([], [])
  | [g] => if isGap g.char || g.char = '\x27' then ([], [g]) else ([g.char], [])
  | g :: h :: rest =>
    if g.char = '\x27' then
      if h.char = '\x27' then
        let (word, rest) := singleWord rest
        ('\x27' :: word, rest)
      else ([], g :: h :: rest)
    else if isGap g.char then ([], g :: h :: rest)
    else
      let (word, rest) := singleWord (h :: rest)
      (g.char :: word, rest)

/-- The character of an escape without a code. -/
def escape? (c : Char) : Option Char :=
  if c = '0' then some '\x00'
  else if c = 'a' then some '\x07'
  else if c = 'b' then some '\x08'
  else if c = 't' || c = '\t' then some '\t'
  else if c = 'n' then some '\n'
  else if c = 'v' then some '\x0b'
  else if c = 'f' then some '\x0c'
  else if c = 'r' then some '\r'
  else if c = 'e' then some '\x1b'
  else if c = ' ' || c = '\x22' || c = '/' || c = '\\' then some c
  else if c = 'N' then some '\u0085'
  else if c = '_' then some '\u00a0'
  else if c = 'L' then some '\u2028'
  else if c = 'P' then some '\u2029'
  else none

/-- How many digits the code of an escape has. -/
def codeLength? (c : Char) : Option Nat :=
  if c = 'x' then some 2 else if c = 'u' then some 4 else if c = 'U' then some 8 else none

/-- The character of an escape behind its backslash, and the rest. -/
def escaped? : List Glyph → Option (Char × List Glyph)
  | [] => none
  | g :: rest =>
    match codeLength? g.char with
    | none => (escape? g.char).map fun c => (c, rest)
    | some n => do
      let code ← Text.hexNumber? ((rest.take n).map Glyph.char)
      if code.isValidChar then some (Char.ofNat code, rest.drop n) else none

/-- A word between double quotes, and whether it ends with an escaped line break. -/
def doubleWord : Nat → List Glyph → Option (List Char × Bool × List Glyph)
  | 0, _ => none
  | _ + 1, [] => some ([], false, [])
  | fuel + 1, g :: rest =>
    if isGap g.char || g.char = '\x22' then some ([], false, g :: rest)
    else if g.char = '\\' then
      if isBreak (first rest) then some ([], true, rest.drop 1)
      else do
        let (c, rest) ← escaped? rest
        let (word, broken, rest) ← doubleWord fuel rest
        pure (c :: word, broken, rest)
    else do
      let (word, broken, rest) ← doubleWord fuel rest
      pure (g.char :: word, broken, rest)

/-- A quoted scalar behind its opening quote. -/
def quotedScalar (single : Bool) : Nat → List Char → List Glyph → Option (List Char × List Glyph)
  | 0, _, _ => none
  | fuel + 1, text, gs =>
    if atDocumentMark gs || first gs = endMark then none
    else do
      let (word, broken, rest) ←
        if single then
          let (word, rest) := singleWord gs
          pure (word, false, rest)
        else doubleWord (gs.length + 1) gs
      if first rest = (if single then '\x27' else '\x22') then
        pure (text ++ word, rest.drop 1)
      else
        let start : Gap := if broken then .breaks none [] else .blanks []
        let (gap, rest) ← Gap.read (fun _ => false) start rest
        quotedScalar single fuel (text ++ word ++ gap.text) rest

/-! ## Block scalars -/

/-- What becomes of the line breaks at the end of a block scalar. -/
inductive Chomp where
  | strip
  | clip
  | keep
deriving DecidableEq

/-- Reads the empty lines in front of a line of a block scalar and the indentation of that
line. With `indent = 0` all spaces are indentation, and `widest` is the largest column reached. -/
def blockGap (indent : Nat) : Nat → List Char → List Glyph →
    Option (Nat × List Char × List Glyph)
  | widest, breaks, [] => some (widest, breaks, [])
  | widest, breaks, g :: rest =>
    let inside := indent = 0 || g.column < indent
    if inside && g.char = ' ' then blockGap indent widest breaks rest
    else if inside && g.char = '\t' then none
    else if isBreak g.char then
      blockGap indent (max widest g.column) (breaks ++ [g.char]) rest
    else some (max widest g.column, breaks, g :: rest)

/-- The lines of a block scalar: `last` is the break that ended the line before and `breaks`
are the empty lines behind it. -/
def blockLines (literal : Bool) (indent : Nat) (chomp : Chomp) :
    Nat → List Char → Option Char → List Char → Bool → List Glyph →
    Option (List Char × List Glyph)
  | 0, _, _, _, _, _ => none
  | fuel + 1, text, last, breaks, blankLine, gs =>
    if frontColumn gs = indent && first gs ≠ endMark then
      let startsBlank := isBlank (first gs)
      let joint :=
        if !literal && last = some '\n' && !blankLine && !startsBlank then
          if breaks.isEmpty then [' '] else breaks
        else last.toList ++ breaks
      let (line, rest) := span (fun c => !isBreakOrEnd c) gs
      let (last, rest) :=
        if isBreak (first rest) then (some (first rest), rest.drop 1) else (none, rest)
      (blockGap indent 0 [] rest).bind fun (_, breaks, rest) =>
        blockLines literal indent chomp fuel (text ++ joint ++ line) last breaks startsBlank rest
    else
      let ending :=
        (if chomp = .strip then [] else last.toList) ++ (if chomp = .keep then breaks else [])
      some (text ++ ending, gs)

/-- What a block scalar says of itself: what becomes of its last breaks, and how far it is
indented. -/
def blockHeader? (gs : List Glyph) : Option (Chomp × Nat × List Glyph) :=
  let chomp? (c : Char) : Option Chomp :=
    if c = '+' then some .keep else if c = '-' then some .strip else none
  let indent? (c : Char) : Option Nat :=
    if isDigit c then some (c.toNat - 48) else none
  let checked (r : Chomp × Nat × List Glyph) (given : Bool) : Option (Chomp × Nat × List Glyph) :=
    if given && r.2.1 = 0 then none else some r
  match chomp? (first gs), indent? (first gs) with
  | some chomp, _ =>
    match indent? (ahead 1 gs) with
    | some n => checked (chomp, n, gs.drop 2) true
    | none => checked (chomp, 0, gs.drop 1) false
  | none, some n =>
    match chomp? (ahead 1 gs) with
    | some chomp => checked (chomp, n, gs.drop 2) true
    | none => checked (.clip, n, gs.drop 1) true
  | none, none => checked (.clip, 0, gs) false

/-- A block scalar behind its mark, inside a collection indented to `outer`. -/
def blockScalar (literal : Bool) (outer : Int) (gs : List Glyph) :
    Option (List Char × List Glyph) := do
  let (chomp, given, gs) ← blockHeader? gs
  let gs ← endLine? gs
  let fixed := if given = 0 then 0 else (max outer 0 + given).toNat
  let (widest, breaks, gs) ← blockGap fixed 0 [] gs
  let indent := if fixed = 0 then max widest (max (outer + 1) 1).toNat else fixed
  blockLines literal indent chomp (gs.length + 1) [] none breaks false gs

end GroupRoles.Yaml
