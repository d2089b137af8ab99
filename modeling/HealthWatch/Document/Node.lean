/-!
# Documents

A configuration is read from a document: a tree of scalars, lists and
mappings, whatever the language that it was written in.  The languages differ
in what a scalar may stand for, so a `Scalar` carries an answer for every kind
of reader: one that wants a count, a flag, a text or a choice, and one that
does not know yet what it wants and takes the value that the scalar has by
itself.  Readers of documents need no other knowledge of the languages.
-/

namespace HealthWatch.Document

/-- What a scalar is when no reader asks for anything in particular. -/
inductive Value where
  | null
  | flag (b : Bool)
  /-- A whole number that is written without a sign. -/
  | natural (n : Nat)
  /-- A whole number that is written with a minus sign. -/
  | signed (n : Int)
  /-- Any other number. -/
  | fraction
  | text (s : String)
deriving DecidableEq

/-- A scalar, by what the readers of it get. -/
structure Scalar where
  /-- For a reader of counts. -/
  natural? : Option Nat
  /-- For a reader of flags. -/
  flag? : Option Bool
  /-- For a reader of texts. -/
  text? : Option String
  /-- For a reader of one name out of a few. -/
  choice? : Option String
  /-- For a reader of mappings: whether the scalar stands for an empty one. -/
  blank : Bool
  /-- For a reader that takes what there is. -/
  value? : Option Value

/-- How lists and mappings are marked in the language of a document. -/
inductive Marking where
  /-- A list may give the fields of a section in their order, and a mapping of
  one entry may name a choice. -/
  | positional
  /-- Neither is so. -/
  | keyed
  /-- Neither is so, and the list or mapping claims a type of its own, so that
  only a reader that knows what it wants can read it. -/
  | labelled
deriving DecidableEq

/-- How deep lists and mappings may be nested, the outermost one counted, for a
reader that takes what there is. -/
def Marking.maxDepth : Marking → Nat
  | .positional => 127
  | .keyed | .labelled => 128

/-- A part of a document. -/
inductive Node where
  | scalar (s : Scalar)
  | list (marking : Marking) (items : List Node)
  /-- The entries as they are listed; a key may be listed more than once. -/
  | mapping (marking : Marking) (entries : List (Node × Node))
  /-- Stands for the part that is marked with a number. -/
  | alias (number : Nat)
  /-- A part that no reader can read, and that does no harm unless one tries. -/
  | unreadable

namespace Node

mutual

/-- How much there is to a node: every scalar and alias counts once, every list
and mapping twice, for its beginning and its end. -/
def size : Node → Nat
  | .scalar _ | .alias _ | .unreadable => 1
  | .list _ items => 2 + sizeOfItems items
  | .mapping _ entries => 2 + sizeOfEntries entries

/-- How much there is to the items of a list. -/
def sizeOfItems : List Node → Nat
  | [] => 0
  | item :: rest => item.size + sizeOfItems rest

/-- How much there is to the keys and values of a mapping. -/
def sizeOfEntries : List (Node × Node) → Nat
  | [] => 0
  | (key, value) :: rest => key.size + value.size + sizeOfEntries rest

end

end Node

end HealthWatch.Document

namespace HealthWatch

/-- A document: its outermost part, and the parts that aliases stand for. -/
structure Document where
  root : Document.Node
  /-- The marked parts by their numbers.  Of two parts with one number the first
  one listed counts. -/
  marked : List (Nat × Document.Node) := []

/-- How many aliases may be followed while a document is read, so that a short
document does not stand for an endless one. -/
def Document.maxJumps (d : Document) : Nat := 100 * d.root.size

end HealthWatch
