/-!
# Tokens of YAML

A text in YAML is a sequence of tokens.  Some are marks that stand in the text;
the beginnings and ends of block lists and block mappings are told by the
indentation alone.
-/

namespace HealthWatch.Yaml

/-- How a scalar is written. -/
inductive ScalarStyle where
  | plain
  | singleQuoted
  | doubleQuoted
  | literal
  | folded
deriving DecidableEq

/-- A tag as it is written: a handle and what follows it.  A tag that is written
out in full has an empty handle.  What follows may escape any bytes, so it need
not be a text. -/
structure TagName where
  handle : String
  suffix : List UInt8
deriving DecidableEq

/-- A token. -/
inductive Token where
  | version (major minor : Nat)
  /-- What a handle stands for in the document that follows. -/
  | handle (handle : String) (start : List UInt8)
  | documentStart
  | documentEnd
  | blockListStart
  | blockMappingStart
  | blockEnd
  | flowListStart
  | flowListEnd
  | flowMappingStart
  | flowMappingEnd
  /-- The mark of an item of a block list. -/
  | item
  /-- The comma of a flow list or mapping. -/
  | comma
  | key
  | value
  | anchor (name : String)
  | alias (name : String)
  | tag (name : TagName)
  | scalar (style : ScalarStyle) (text : String)
  | streamEnd
deriving DecidableEq

end HealthWatch.Yaml
