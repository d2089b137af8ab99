import HealthWatch.Yaml.ScalarText
import HealthWatch.Yaml.TagText

/-!
# Cutting a text into tokens

Most tokens are found where they stand.  Two kinds are not.  The beginnings and
ends of block lists and mappings follow from the indentation: `indents` holds
the columns of those that are open.  And that a scalar is the key of a mapping
shows only at the colon behind it: `keys` holds, for the block context and for
every open flow list or mapping, where the last token stands that may turn out
to be a key.  At the colon the tokens that say so are put before it.
-/

namespace HealthWatch.Yaml

/-- A token that may turn out to be a key. -/
structure KeySite where
  /-- How many tokens there are before it. -/
  index : Nat
  /-- Whether it can be nothing else. -/
  required : Bool
  place : Place

/-- What has been cut off a text, and what is known of the rest. -/
structure Lexer where
  cursor : Cursor
  tokens : Array Token
  /-- The columns of the open block lists and mappings, the innermost first. -/
  indents : List Nat
  /-- The last possible key on every level, the innermost level first. -/
  keys : List (Option KeySite)
  /-- Whether a key may stand here. -/
  keyAllowed : Bool

namespace Lexer

/-- The state before a text. -/
def start (cs : List Char) : Lexer := ⟨.start cs, #[], [], [none], true⟩

/-- Whether a flow list or mapping is open. -/
def inFlow (l : Lexer) : Bool := 1 < l.keys.length

/-- The column right of the innermost open block list or mapping. -/
def margin (l : Lexer) : Nat :=
  match l.indents with
  | column :: _ => column + 1
  | [] => 0

/-- Adds a token. -/
def push (l : Lexer) (t : Token) : Lexer := { l with tokens := l.tokens.push t }

/-- Adds a token and goes past `n` characters. -/
def pushPast (l : Lexer) (n : Nat) (t : Token) : Lexer :=
  { l with tokens := l.tokens.push t, cursor := l.cursor.advance n }

/-- Puts a token before those from `index` on. -/
def insert (l : Lexer) (index : Nat) (t : Token) : Lexer :=
  { l with tokens := (l.tokens.take index).push t ++ l.tokens.drop index }

/-- Opens a block list or mapping at a column that is right of all open ones. -/
def indent (l : Lexer) (column : Nat) (add : Lexer → Lexer) : Lexer :=
  if !l.inFlow && l.margin ≤ column then add { l with indents := column :: l.indents } else l

/-- Closes the open block lists and mappings that are right of a column. -/
def closeRightOf (column : Nat) : List Nat → Array Token → List Nat × Array Token
  | [], tokens => ([], tokens)
  | c :: rest, tokens =>
    if column < c then closeRightOf column rest (tokens.push .blockEnd) else (c :: rest, tokens)

/-- Closes the block lists and mappings that a token at a column does not belong
to. -/
def unindent (l : Lexer) (column : Nat) : Lexer :=
  if l.inFlow then l
  else
    let (indents, tokens) := closeRightOf column l.indents l.tokens
    { l with indents, tokens }

/-- Closes all block lists and mappings. -/
def closeAll (l : Lexer) : Lexer :=
  if l.inFlow then l
  else { l with indents := [], tokens := l.indents.foldl (fun ts _ => ts.push .blockEnd) l.tokens }

/-- Gives up the possible key of the innermost level. -/
def dropKey (l : Lexer) : Option Lexer :=
  match l.keys with
  | some site :: rest => if site.required then none else some { l with keys := none :: rest }
  | _ => some l

/-- Takes the token that begins here for a possible key. -/
def saveKey (l : Lexer) : Option Lexer :=
  if l.keyAllowed then do
    let required := !l.inFlow && l.indents.head? == some l.cursor.column
    let l ← l.dropKey
    some { l with keys := some ⟨l.tokens.size, required, l.cursor.place⟩ :: l.keys.drop 1 }
  else some l

/-- Gives up a possible key from which one has come too far: beyond its line, or
more than 1024 characters. -/
def freshKey (now : Place) : Option KeySite → Option (Option KeySite)
  | none => some none
  | some site =>
    if site.place.line < now.line || site.place.index + 1024 < now.index then
      if site.required then none else some none
    else some (some site)

/-- Gives up all possible keys from which one has come too far. -/
def freshKeys (l : Lexer) : Option Lexer :=
  (l.keys.mapM (freshKey l.cursor.place)).map fun keys => { l with keys }

/-- Goes past spaces, comments and line ends.  A line may begin with a mark of the
byte order.  Outside flow lists and mappings a line end allows a key, and a tab
may not stand where a key may.  Each step goes to the next line, so `fuel` bounds
the number of lines. -/
def skipToToken : (fuel : Nat) → Lexer → Lexer
  | 0, l => l
  | fuel + 1, l =>
    let c := if l.cursor.column == 0 && l.cursor.rest.head? == some '\ufeff' then
      l.cursor.advance 1 else l.cursor
    let tabs := l.inFlow || !l.keyAllowed
    let c := c.skipWhile fun ch => ch == ' ' || (tabs && ch == '\t')
    let c := if c.rest.head? == some '#' then c.skipWhile (fun _ => true) else c
    if c.rest.head?.any isBreak then
      skipToToken fuel
        { l with cursor := c.skipBreak, keyAllowed := l.keyAllowed || !l.inFlow }
    else { l with cursor := c }

/-- Ends the tokens. -/
def finish (l : Lexer) : Option Lexer := do
  let l ← l.closeAll.dropKey
  some (l.push .streamEnd)

/-- A directive. -/
def directive (l : Lexer) : Option Lexer := do
  let l ← l.closeAll.dropKey
  let (token, cursor) ← readDirective (l.cursor.advance 1)
  some { l.push token with cursor, keyAllowed := false }

/-- The mark of the start or the end of a document. -/
def documentMark (l : Lexer) (token : Token) : Option Lexer := do
  let l ← l.closeAll.dropKey
  some { l.pushPast 3 token with keyAllowed := false }

/-- The start of a flow list or mapping, which may be a key. -/
def flowStart (l : Lexer) (token : Token) : Option Lexer := do
  let l ← l.saveKey
  some { l.pushPast 1 token with keys := none :: l.keys, keyAllowed := true }

/-- The end of a flow list or mapping. -/
def flowEnd (l : Lexer) (token : Token) : Option Lexer := do
  let l ← l.dropKey
  let keys := if l.inFlow then l.keys.drop 1 else l.keys
  some { l.pushPast 1 token with keys, keyAllowed := false }

/-- A comma. -/
def flowComma (l : Lexer) : Option Lexer := do
  let l ← l.dropKey
  some { l.pushPast 1 .comma with keyAllowed := true }

/-- The mark of an item, which may open a block list. -/
def itemMark (l : Lexer) : Option Lexer := do
  guard (l.inFlow || l.keyAllowed)
  let l ← (l.indent l.cursor.column (·.push .blockListStart)).dropKey
  some { l.pushPast 1 .item with keyAllowed := true }

/-- The mark of a key, which may open a block mapping. -/
def keyMark (l : Lexer) : Option Lexer := do
  guard (l.inFlow || l.keyAllowed)
  let l ← (l.indent l.cursor.column (·.push .blockMappingStart)).dropKey
  some { l.pushPast 1 .key with keyAllowed := !l.inFlow }

/-- The colon before a value.  If the token before it may be a key then it is
one, and opens a block mapping if it stands right of those that are open. -/
def valueMark (l : Lexer) : Option Lexer :=
  match l.keys with
  | some site :: rest =>
    let l := (l.insert site.index .key).indent site.place.column
      (·.insert site.index .blockMappingStart)
    some { l.pushPast 1 .value with keys := none :: rest, keyAllowed := false }
  | _ => do
    guard (l.inFlow || l.keyAllowed)
    let l := l.indent l.cursor.column (·.push .blockMappingStart)
    some { l.pushPast 1 .value with keyAllowed := !l.inFlow }

/-- An anchor or an alias, which may be the beginning of a key. -/
def anchorMark (l : Lexer) (token : String → Token) : Option Lexer := do
  let l ← l.saveKey
  let (name, cursor) ← readAnchorName (l.cursor.advance 1)
  some { l.push (token name) with cursor, keyAllowed := false }

/-- A tag, which may be the beginning of a key. -/
def tagMark (l : Lexer) : Option Lexer := do
  let l ← l.saveKey
  let (token, cursor) ← readTag l.inFlow l.cursor
  some { l.push token with cursor, keyAllowed := false }

/-- The token of a scalar that was read. -/
def pushScalar (l : Lexer) (style : ScalarStyle) (r : Reading) (keyAllowed : Bool) : Lexer :=
  { l.push (.scalar style (String.ofList r.text)) with cursor := r.cursor, keyAllowed }

/-- A block scalar, which is no key. -/
def blockScalar (l : Lexer) (style : ScalarStyle) : Option Lexer := do
  let l ← l.dropKey
  let r ← readBlock (style == .folded) l.margin (l.cursor.advance 1)
  some (l.pushScalar style r true)

/-- A quoted scalar. -/
def quotedScalar (l : Lexer) (style : ScalarStyle) (quote : Char) : Option Lexer := do
  let l ← l.saveKey
  let r ← readQuoted quote (l.cursor.rest.length + 1) [] (l.cursor.advance 1)
  some (l.pushScalar style r false)

/-- A plain scalar.  A key may follow if a line end does. -/
def plainScalar (l : Lexer) : Option Lexer := do
  let l ← l.saveKey
  let r ← readPlain l.inFlow l.margin (l.cursor.rest.length + 1) [] .empty l.cursor
  some (l.pushScalar .plain r r.broken)

/-- The characters that mean something at the start of a token. -/
def isIndicator (c : Char) : Bool := "-?:,[]\x7b\x7d#&*!|>'\"%@\x60".toList.contains c

/-- The token that begins with a character. -/
def token (l : Lexer) (ch : Char) (rest : List Char) : Option Lexer :=
  let marks := l.inFlow || isSeparated rest
  if l.cursor.column == 0 && ch == '%' then l.directive
  else if l.cursor.atMark '-' then l.documentMark .documentStart
  else if l.cursor.atMark '.' then l.documentMark .documentEnd
  else if ch == '[' then l.flowStart .flowListStart
  else if ch == '\x7b' then l.flowStart .flowMappingStart
  else if ch == ']' then l.flowEnd .flowListEnd
  else if ch == '\x7d' then l.flowEnd .flowMappingEnd
  else if ch == ',' then l.flowComma
  else if ch == '-' && isSeparated rest then l.itemMark
  else if ch == '?' && marks then l.keyMark
  else if ch == ':' && marks then l.valueMark
  else if ch == '*' then l.anchorMark .alias
  else if ch == '&' then l.anchorMark .anchor
  else if ch == '!' then l.tagMark
  else if ch == '|' && !l.inFlow then l.blockScalar .literal
  else if ch == '>' && !l.inFlow then l.blockScalar .folded
  else if ch == '\'' then l.quotedScalar .singleQuoted ch
  else if ch == '"' then l.quotedScalar .doubleQuoted ch
  else if !(isSpace ch || isIndicator ch) || ch == '-' ||
      (!l.inFlow && (ch == '?' || ch == ':')) then l.plainScalar
  else none

/-- Cuts off all tokens.  Each one takes a character, so `fuel` is the number of
characters, and one more for the end. -/
def run : (fuel : Nat) → Lexer → Option Lexer
  | 0, _ => none
  | fuel + 1, l => do
    let l ← (l.skipToToken (l.cursor.rest.length + 1)).freshKeys
    match l.cursor.rest with
    | [] => l.finish
    | ch :: rest => run fuel (← (l.unindent l.cursor.column).token ch rest)

end Lexer

/-- The tokens of a text. -/
def tokens? (s : String) : Option (List Token) :=
  if s.toList.all isAllowed then
    (Lexer.run (s.length + 1) (.start s.toList)).map (·.tokens.toList)
  else none

end HealthWatch.Yaml
