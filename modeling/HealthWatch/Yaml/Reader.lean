import HealthWatch.Yaml.Lexer
import HealthWatch.Yaml.Scalar

/-!
# YAML documents

The tokens of a text as a document.  A text holds at most one; where nothing is
written stands an empty scalar.  An alias stands for the node that its anchor
marks; the anchor must come before it, but which node it is shows only at the
end, when all anchors are known.
-/

namespace HealthWatch.Yaml

open HealthWatch.Document

/-- The anchors of a document so far. -/
structure Anchors where
  /-- The numbers that the names stand for. -/
  names : List (String × Nat)
  /-- The marked nodes with their numbers, in the order in which they begin.  A
  node that is not complete yet is not readable. -/
  nodes : Array (Nat × Node)

namespace Anchors

/-- No anchors. -/
def empty : Anchors := ⟨[], #[]⟩

/-- Gives a number to the node that begins here, for which a name stands from now
on: how many names there were.  The number need not be new if the name is not. -/
def declare (a : Anchors) (name : String) : Anchors :=
  let number := (a.names.map (·.1)).eraseDups.length
  ⟨(name, number) :: a.names, a.nodes.push (number, .unreadable)⟩

/-- Completes the node before which there were `index` marked ones. -/
def complete (a : Anchors) (index : Nat) (node : Node) : Anchors :=
  { a with nodes := a.nodes.modify index fun entry => (entry.1, node) }

/-- The marked nodes by their numbers, of those with one number the last one
first. -/
def marked (a : Anchors) : List (Nat × Node) := a.nodes.toList.reverse

end Anchors

/-- What is known while a document is read. -/
structure Reader where
  tokens : List Token
  anchors : Anchors
  /-- What the handles of tags stand for. -/
  handles : List (String × List UInt8)

namespace Reader

/-- The next token; behind the last one the text ends. -/
def peek (r : Reader) : Token := r.tokens.headD .streamEnd

/-- Goes past a token. -/
def skip (r : Reader) : Reader := { r with tokens := r.tokens.drop 1 }

/-- The marks before a node. -/
structure Properties where
  anchor : Option String := none
  tag : Option TagName := none

/-- Reads an anchor and a tag, in any order. -/
def properties (r : Reader) : Properties × Reader :=
  match r.tokens with
  | .anchor a :: .tag t :: rest => (⟨some a, some t⟩, { r with tokens := rest })
  | .tag t :: .anchor a :: rest => (⟨some a, some t⟩, { r with tokens := rest })
  | .anchor a :: rest => (⟨some a, none⟩, { r with tokens := rest })
  | .tag t :: rest => (⟨none, some t⟩, { r with tokens := rest })
  | _ => ({}, r)

/-- What a tag claims.  The handle must be known. -/
def claim? (r : Reader) (name : TagName) : Option (Option Tag) :=
  if name.handle.isEmpty then some (Tag.ofBytes? (beforeZero name.suffix))
  else
    (r.handles.lookup name.handle).map fun start =>
      Tag.ofBytes? (beforeZero start ++ beforeZero name.suffix)

/-- What the tag of a node claims, if it has one. -/
def claimOf? (r : Reader) : Option TagName → Option (Option Tag)
  | none => some none
  | some name => r.claim? name

/-- Lets the anchor before a node stand for it, and reads the node. -/
def anchored (r : Reader) (anchor : Option String)
    (read : Reader → Option (Node × Reader)) : Option (Node × Reader) :=
  match anchor with
  | none => read r
  | some name => do
    let (node, after) ← read { r with anchors := r.anchors.declare name }
    some (node, { after with anchors := after.anchors.complete r.anchors.nodes.size node })

/-- The marking of a list or a mapping with a tag. -/
def marking : Option Tag → Marking
  | some (.own _) => .labelled
  | _ => .keyed

/-- Where a node stands. -/
inductive Context where
  | inFlow
  | inBlock
  /-- Under a key, where the items of a list need not be indented. -/
  | underKey
deriving DecidableEq

/-- Whether a token ends the item of a block list that has nothing in it. -/
def endsItem (t : Token) : Bool := t = .item || t = .blockEnd

/-- Whether a token ends an entry of a block mapping that has nothing in it. -/
def endsEntry (t : Token) : Bool := t = .key || t = .value || t = .blockEnd

/-- An empty scalar. -/
def emptyNode : Node := .scalar nothing

/-- A scalar in which nothing is written, behind an anchor or a tag. -/
def markedEmpty (p : Properties) (tag : Option Tag) (r : Reader) : Option (Node × Reader) :=
  if p.anchor.isSome || p.tag.isSome then some (.scalar (scalarOf tag .plain ""), r) else none

mutual

/-- Reads a node.  `fuel` bounds the depth of the recursion, here and below. -/
def node : (fuel : Nat) → Context → Reader → Option (Node × Reader)
  | 0, _, _ => none
  | fuel + 1, context, r =>
    match r.peek with
    | .alias name => (r.anchors.names.lookup name).map fun number => (.alias number, r.skip)
    | _ => do
      let (properties, r) := r.properties
      let tag ← r.claimOf? properties.tag
      r.anchored properties.anchor fun r =>
        match r.peek with
        | .scalar style text => some (.scalar (scalarOf tag style text), r.skip)
        | .flowListStart => do
          let (items, r) ← flowItems fuel true r.skip
          some (.list (marking tag) items, r)
        | .flowMappingStart => do
          let (entries, r) ← flowEntries fuel true r.skip
          some (.mapping (marking tag) entries, r)
        | .item =>
          if context = .underKey then do
            let (items, r) ← looseItems fuel r
            some (.list (marking tag) items, r)
          else markedEmpty properties tag r
        | .blockListStart =>
          if context = .inFlow then markedEmpty properties tag r
          else do
            let (items, r) ← blockItems fuel r.skip
            some (.list (marking tag) items, r)
        | .blockMappingStart =>
          if context = .inFlow then markedEmpty properties tag r
          else do
            let (entries, r) ← blockEntries fuel r.skip
            some (.mapping (marking tag) entries, r)
        | _ => markedEmpty properties tag r

/-- Reads the items of a block list up to its end. -/
def blockItems : (fuel : Nat) → Reader → Option (List Node × Reader)
  | 0, _ => none
  | fuel + 1, r =>
    match r.peek with
    | .blockEnd => some ([], r.skip)
    | .item => do
      let (first, r) ← if endsItem r.skip.peek then some (emptyNode, r.skip)
        else node fuel .inBlock r.skip
      let (more, r) ← blockItems fuel r
      some (first :: more, r)
    | _ => none

/-- Reads the items of a list that is not indented. -/
def looseItems : (fuel : Nat) → Reader → Option (List Node × Reader)
  | 0, _ => none
  | fuel + 1, r =>
    match r.peek with
    | .item => do
      let next := r.skip.peek
      let (first, r) ← if endsItem next || endsEntry next then some (emptyNode, r.skip)
        else node fuel .inBlock r.skip
      let (more, r) ← looseItems fuel r
      some (first :: more, r)
    | _ => some ([], r)

/-- Reads what stands behind the mark of a key or of a value in a block mapping. -/
def blockPart : (fuel : Nat) → Reader → Option (Node × Reader)
  | 0, _ => none
  | fuel + 1, r => if endsEntry r.peek then some (emptyNode, r) else node fuel .underKey r

/-- Reads the entries of a block mapping up to its end. -/
def blockEntries : (fuel : Nat) → Reader → Option (List (Node × Node) × Reader)
  | 0, _ => none
  | fuel + 1, r =>
    match r.peek with
    | .blockEnd => some ([], r.skip)
    | .key => do
      let (key, r) ← blockPart fuel r.skip
      let (value, r) ← if r.peek = .value then blockPart fuel r.skip else some (emptyNode, r)
      let (more, r) ← blockEntries fuel r
      some ((key, value) :: more, r)
    | _ => none

/-- Reads what stands behind the mark of a key or of a value inside a flow list or
mapping that ends with `close`. -/
def flowPart : (fuel : Nat) → (close : Token) → Reader → Option (Node × Reader)
  | 0, _, _ => none
  | fuel + 1, close, r =>
    if r.peek = .comma || r.peek = close then some (emptyNode, r) else node fuel .inFlow r

/-- Reads the entry of a flow list that is a mapping of its own, after the mark of
its key.  If its key is left out, the token that follows the mark is, too. -/
def flowPair : (fuel : Nat) → Reader → Option (Node × Reader)
  | 0, _ => none
  | fuel + 1, r => do
    let (key, r) ← if r.peek = .value || r.peek = .comma || r.peek = .flowListEnd then
        some (emptyNode, r.skip) else node fuel .inFlow r
    let (value, r) ← if r.peek = .value then flowPart fuel .flowListEnd r.skip
      else some (emptyNode, r)
    some (.mapping .keyed [(key, value)], r)

/-- Reads the items of a flow list up to its end; but for the `first`, each stands
behind a comma. -/
def flowItems : (fuel : Nat) → (first : Bool) → Reader → Option (List Node × Reader)
  | 0, _, _ => none
  | fuel + 1, first, r =>
    if r.peek = .flowListEnd then some ([], r.skip)
    else if !first && r.peek != .comma then none
    else
      let r := if first then r else r.skip
      if r.peek = .flowListEnd then some ([], r.skip)
      else do
        let (item, r) ← if r.peek = .key then flowPair fuel r.skip else node fuel .inFlow r
        let (more, r) ← flowItems fuel false r
        some (item :: more, r)

/-- Reads the entries of a flow mapping up to its end; but for the `first`, each
stands behind a comma. -/
def flowEntries : (fuel : Nat) → (first : Bool) → Reader →
    Option (List (Node × Node) × Reader)
  | 0, _, _ => none
  | fuel + 1, first, r =>
    if r.peek = .flowMappingEnd then some ([], r.skip)
    else if !first && r.peek != .comma then none
    else
      let r := if first then r else r.skip
      if r.peek = .flowMappingEnd then some ([], r.skip)
      else if r.peek = .key then do
        let (key, r) ← if r.skip.peek = .value then some (emptyNode, r.skip)
          else flowPart fuel .flowMappingEnd r.skip
        let (value, r) ← if r.peek = .value then flowPart fuel .flowMappingEnd r.skip
          else some (emptyNode, r)
        let (more, r) ← flowEntries fuel false r
        some ((key, value) :: more, r)
      else do
        let (key, r) ← node fuel .inFlow r
        let (more, r) ← flowEntries fuel false r
        some ((key, emptyNode) :: more, r)

end

/-- The handles that every document knows. -/
def commonHandles : List (String × List UInt8) := [("!", [0x21]), ("!!", coreStart)]

/-- Reads the directives before a document.  Only the versions 1.1 and 1.2 are
known, and neither a version nor a handle may be told twice. -/
def directives : List Token → (versioned : Bool) → (handles : List (String × List UInt8)) →
    Option (List Token × Bool × List (String × List UInt8))
  | .version major minor :: rest, versioned, handles =>
    if versioned || major != 1 || (minor != 1 && minor != 2) then none
    else directives rest true handles
  | .handle handle start :: rest, versioned, handles =>
    if (handles.lookup handle).isSome then none
    else directives rest versioned ((handle, start) :: handles)
  | tokens, versioned, handles => some (tokens, versioned, handles)

/-- Whether nothing but ends of documents is left. -/
def isFinished (tokens : List Token) : Bool :=
  match tokens.dropWhile (· = .documentEnd) with
  | [] | [.streamEnd] => true
  | _ => false

/-- Reads the node of a document and the end of the text. -/
def root? (handles : List (String × List UInt8)) (tokens : List Token) : Option Document := do
  let r : Reader := ⟨tokens, .empty, handles ++ commonHandles⟩
  let (root, r) ← node (3 * tokens.length + 3) .inBlock r
  if isFinished r.tokens then some { root, marked := r.anchors.marked } else none

/-- Whether a document without anything in it ends at these tokens. -/
def isEmptyDocument : List Token → Bool
  | .version .. :: _ | .handle .. :: _ | .documentStart :: _ | .documentEnd :: _ => true
  | [] | .streamEnd :: _ => true
  | _ => false

/-- The document of the tokens of a text. -/
def document? (tokens : List Token) : Option Document := do
  let (rest, versioned, handles) ← directives tokens false []
  match rest with
  | .documentStart :: rest =>
    if isEmptyDocument rest then
      if isFinished rest then some { root := emptyNode } else none
    else root? handles rest
  | [.streamEnd] => if versioned || !handles.isEmpty then none else some { root := emptyNode }
  | rest => if versioned || !handles.isEmpty then none else root? [] rest

end Reader

/-- Reads a text as a YAML document. -/
def readDocument (s : String) : Option Document := (tokens? s).bind Reader.document?

end HealthWatch.Yaml
