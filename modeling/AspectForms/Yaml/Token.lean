/-!
The marks and scalars of a YAML text.  Indentation shows as marks of its own, and so does a key that is
recognised only by the colon after it.
-/

namespace AspectForms.Yaml

/-- How a scalar is written. -/
inductive Style
  | plain
  | quoted
  | literal
  | folded
deriving DecidableEq, Repr

inductive Directive
  | version (major minor : Nat)
  /-- The tags that start with `handle` start with `start` in full. -/
  | tag (handle start : String)
deriving DecidableEq, Repr

/-- A mark or a scalar. -/
inductive Token
  | directive (d : Directive)
  | documentStart
  | documentEnd
  | blockSequenceStart
  | blockMappingStart
  | blockEnd
  | flowSequenceStart
  | flowSequenceEnd
  | flowMappingStart
  | flowMappingEnd
  | blockEntry
  | flowEntry
  | key
  | value
  | alias (name : String)
  | anchor (name : String)
  /-- The tag of `suffix` among those of `handle`; without a handle, the whole tag. -/
  | tag (handle suffix : String)
  | scalar (style : Style) (text : String)
deriving DecidableEq, Repr

end AspectForms.Yaml
