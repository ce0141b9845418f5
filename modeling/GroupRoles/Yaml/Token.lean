import GroupRoles.Yaml.Tag

/-!
# YAML tokens

The marks, names and scalars of a YAML text. Indentation is made explicit: a block collection
has a token where it starts and one where it ends.
-/

namespace GroupRoles.Yaml

/-- How a scalar is written. -/
inductive Style where
  | plain
  | singleQuoted
  | doubleQuoted
  | literal
  | folded
deriving Repr, DecidableEq

/-- A token. -/
inductive Token where
  | endOfText
  | version (major minor : Nat)
  | tagHandle (handle : String) (stem : Tag)
  | documentStart
  | documentEnd
  | blockSequence
  | blockMapping
  | blockEnd
  | flowSequence
  | flowSequenceEnd
  | flowMapping
  | flowMappingEnd
  | entry
  | comma
  | key
  | value
  | alias (name : String)
  | anchor (name : String)
  | tag (handle : String) (suffix : Tag)
  | scalar (style : Style) (text : String)
deriving Repr, DecidableEq

end GroupRoles.Yaml
