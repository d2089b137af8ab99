/-!
# Tags

A tag claims a type for a node.  A few types are known everywhere; a tag that
begins with `!` names a type of the document itself.  Any other tag claims
nothing that a reader could check.
-/

namespace HealthWatch.Yaml

/-- The types of scalars that every document knows, but for texts. -/
inductive CoreType where
  | flag
  | whole
  | number
  | null
deriving DecidableEq

/-- What a tag claims. -/
inductive Tag where
  /-- A type of the document itself. -/
  | own (name : String)
  | core (type : CoreType)
  | other
deriving DecidableEq

/-- What the tags of the core types begin with. -/
def coreStart : List UInt8 := "tag:yaml.org,2002:".toUTF8.toList

/-- The core type of a name. -/
def CoreType.ofName? (name : List UInt8) : Option CoreType :=
  if name = "bool".toUTF8.toList then some .flag
  else if name = "int".toUTF8.toList then some .whole
  else if name = "float".toUTF8.toList then some .number
  else if name = "null".toUTF8.toList then some .null
  else none

/-- The bytes before a zero byte. -/
def beforeZero (bytes : List UInt8) : List UInt8 := bytes.takeWhile (· != 0)

/-- What a tag claims, by its bytes.  A type of the document itself whose name is
no text is not claimed at all. -/
def Tag.ofBytes? (bytes : List UInt8) : Option Tag :=
  if bytes.head? == some 0x21 then
    (String.fromUTF8? (ByteArray.mk bytes.tail.toArray)).map .own
  else if coreStart.isPrefixOf bytes then
    match CoreType.ofName? (bytes.drop coreStart.length) with
    | some type => some (.core type)
    | none => some .other
  else some .other

end HealthWatch.Yaml
