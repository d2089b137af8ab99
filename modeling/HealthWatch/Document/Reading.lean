import HealthWatch.Document.Node

/-!
# Reading documents

A reader looks at a node and gives what it wants to know of it, or fails.  If the
node is an alias it looks at the part that the alias stands for.  Every alias
that is followed is counted, and there is a bound to their number; so a reader
fails on a document in which aliases multiply without measure, but only if it has
to follow them.
-/

namespace HealthWatch.Document

/-- A reader of parts of a document, which counts the aliases that it follows. -/
abbrev Reading (α : Type) := ReaderT Document (StateT Nat Option) α

/-- What a reader gets of a whole document. -/
def Reading.ofDocument? {α : Type} (read : Node → Reading α) (d : Document) : Option α :=
  (((read d.root).run d).run 0).map (·.1)

/-- What a reader gets that takes what there is. -/
inductive Content where
  | value (v : Value)
  /-- A list or a mapping. -/
  | nested

namespace Node

/-- The part that a node stands for. -/
def follow : Node → Reading Node
  | .alias number => do
    let document ← read
    let jumps ← get
    if jumps < document.maxJumps then
      set (jumps + 1)
      ((document.marked.lookup number : Option Node) : Reading Node)
    else failure
  | node => pure node

/-- What a reader gets of a node that must be a scalar. -/
def ofScalar {α : Type} (read : Scalar → Option α) (node : Node) : Reading α := do
  match ← node.follow with
  | .scalar s => ((read s : Option α) : Reading α)
  | _ => failure

/-- The count that a node gives, if it is below the bound. -/
def natural (bound : Nat) : Node → Reading Nat :=
  ofScalar fun s => s.natural?.filter (· < bound)

/-- The flag that a node gives. -/
def flag : Node → Reading Bool := ofScalar Scalar.flag?

/-- The text that a node gives. -/
def text : Node → Reading String := ofScalar Scalar.text?

/-- The choice that a node names. -/
def choice : Node → Reading String
  | .mapping .positional [(.scalar key, .scalar content)] =>
    if content.value? = some .null then ((key.text? : Option String) : Reading String)
    else failure
  | node => ofScalar Scalar.choice? node

/-- What there is to a node, in which lists and mappings may be nested `levels`
deep, aliases included.  All of it must be readable. -/
def content : (levels : Nat) → Node → Reading Content
  | 0, node => do return .value (← ofScalar Scalar.value? node)
  | levels + 1, node => do
    match ← node.follow with
    | .scalar s => ((s.value?.map Content.value : Option Content) : Reading Content)
    | .list marking items => do
      guard (marking ≠ .labelled)
      items.forM fun item => discard (content levels item)
      pure .nested
    | .mapping marking entries => do
      guard (marking ≠ .labelled)
      entries.forM fun (key, value) => do
        discard (content levels key)
        discard (content levels value)
      pure .nested
    | .alias _ | .unreadable => failure

/-- The entries of a mapping under the texts of their keys, if every key has
one.  An empty mapping may be written as a scalar. -/
def entries (node : Node) : Reading (List (String × Node)) := do
  match ← node.follow with
  | .scalar s => if s.blank then pure [] else failure
  | .mapping _ entries => entries.mapM fun e => do return (← e.1.text, e.2)
  | _ => failure

/-- The fields that a section has out of the `names` of its kind.  A field may
not be named twice; entries of other names are left out unread. -/
def fields (names : List String) : Node → Reading (List (String × Node))
  | .list .positional items =>
    if items.length ≤ names.length then pure (names.zip items) else failure
  | node => do
    let fields := (← node.entries).filter fun e => names.contains e.1
    if (fields.map (·.1)).Nodup then pure fields else failure

/-- Reads the field of a name, which is `default` if it is left out. -/
def field {α : Type} (fields : List (String × Node)) (name : String) (default : α)
    (read : Node → Reading α) : Reading α :=
  match fields.lookup name with
  | some node => read node
  | none => pure default

end Node

end HealthWatch.Document
