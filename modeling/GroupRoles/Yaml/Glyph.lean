/-!
# The characters of a YAML text

A glyph is a character with its place: its line and column, and the bytes in front of it. Line breaks are made uniform: a carriage
return, a next-line character and a carriage return with a line feed all read as one line feed,
while the line and paragraph separators keep their character. The last glyph is `NUL`, which no
text may hold.
-/

namespace GroupRoles.Yaml

/-- A character at its place. -/
structure Glyph where
  char : Char
  line : Nat
  column : Nat
  /-- How many bytes of its line stand in front of it. -/
  offset : Nat
deriving Repr, DecidableEq

/-- The character behind every text. -/
def endMark : Char := '\x00'

/-- The byte order mark, which may stand in front of a line and fills a column there. -/
def orderMark : Char := '\ufeff'

/-- Whether a text may hold a character. -/
def isAllowed (c : Char) : Bool :=
  let n := c.toNat
  n == 0x9 || n == 0xa || n == 0xd || (0x20 ≤ n && n ≤ 0x7e) || n == 0x85
    || (0xa0 ≤ n && n ≤ 0xd7ff) || (0xe000 ≤ n && n ≤ 0xfffd) || 0x10000 ≤ n

/-- A space or a tab. -/
def isBlank (c : Char) : Bool :=
  c = ' ' || c = '\t'

/-- The character of a line break after the breaks are made uniform. -/
def isBreak (c : Char) : Bool :=
  c = '\n' || c = '\u2028' || c = '\u2029'

/-- A line break or the end of the text. -/
def isBreakOrEnd (c : Char) : Bool :=
  isBreak c || c = endMark

/-- A blank, a line break or the end of the text. -/
def isGap (c : Char) : Bool :=
  isBlank c || isBreakOrEnd c

/-- A decimal digit. -/
def isDigit (c : Char) : Bool :=
  '0' ≤ c && c ≤ '9'

/-- A character of a name: a letter or digit of ASCII, `_` or `-`. -/
def isNameChar (c : Char) : Bool :=
  isDigit c || ('a' ≤ c && c ≤ 'z') || ('A' ≤ c && c ≤ 'Z') || c = '_' || c = '-'

namespace Glyph

/-- Places the characters of a text. -/
def place (line column offset : Nat) : List Char → List Glyph
  | [] => [⟨endMark, line, column, offset⟩]
  | '\r' :: '\n' :: rest => ⟨'\n', line, column, offset⟩ :: place (line + 1) 0 0 rest
  | c :: rest =>
    if c = '\r' || c = '\u0085' then ⟨'\n', line, column, offset⟩ :: place (line + 1) 0 0 rest
    else if isBreak c then ⟨c, line, column, offset⟩ :: place (line + 1) 0 0 rest
    else ⟨c, line, column, offset⟩ :: place line (column + 1) (offset + c.utf8Size) rest

/-- The glyphs of a text, if it may hold all its characters. -/
def ofChars? (cs : List Char) : Option (List Glyph) :=
  if cs.all isAllowed then some (place 0 0 0 cs) else none

/-- The character in front. -/
def first : List Glyph → Char
  | [] => endMark
  | g :: _ => g.char

/-- The character at a distance from the front. -/
def ahead (n : Nat) (gs : List Glyph) : Char :=
  first (gs.drop n)

/-- The column of the front. -/
def frontColumn : List Glyph → Nat
  | [] => 0
  | g :: _ => g.column

/-- How many bytes of its line stand in front of the front. -/
def frontOffset : List Glyph → Nat
  | [] => 0
  | g :: _ => g.offset

/-- The line of the front. -/
def frontLine : List Glyph → Nat
  | [] => 0
  | g :: _ => g.line

/-- Three equal characters at the start of a line, with a gap behind them. -/
def isDocumentMark (c : Char) (gs : List Glyph) : Bool :=
  frontColumn gs = 0 && first gs = c && ahead 1 gs = c && ahead 2 gs = c && isGap (ahead 3 gs)

/-- The start or the end of a document. -/
def atDocumentMark (gs : List Glyph) : Bool :=
  isDocumentMark '-' gs || isDocumentMark '.' gs

/-- Drops blanks. -/
def skipBlanks (gs : List Glyph) : List Glyph :=
  gs.dropWhile fun g => isBlank g.char

/-- Drops a comment, if one is next. -/
def skipComment (gs : List Glyph) : List Glyph :=
  if first gs = '#' then gs.dropWhile fun g => !isBreakOrEnd g.char else gs

/-- Drops the rest of a line that holds only blanks and a comment. -/
def endLine? (gs : List Glyph) : Option (List Glyph) :=
  match skipComment (skipBlanks gs) with
  | [] => some []
  | g :: rest =>
    if isBreak g.char then some rest
    else if g.char = endMark then some (g :: rest)
    else none

/-- The glyphs in front that satisfy a test, as characters, and the rest. -/
def span (p : Char → Bool) (gs : List Glyph) : List Char × List Glyph :=
  ((gs.takeWhile fun g => p g.char).map Glyph.char, gs.dropWhile fun g => p g.char)

end Glyph

end GroupRoles.Yaml
